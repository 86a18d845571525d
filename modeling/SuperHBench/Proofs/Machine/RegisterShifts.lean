import Mathlib.Data.Nat.Bitwise
import Mathlib.Data.Rat.Floor
import SuperHBench.Proofs.Machine.Steps
import SuperHBench.Proofs.WordReadings

/-! # Shifts by a register

A shift whose amount stands in a register multiplies by a power of two and cuts the product down
to a whole number, whichever way it goes. Of the amount only the sign and the low five bits count,
so every amount does what one from -32 to 31 does. -/

namespace SuperHBench

/-! ## Powers of two -/

theorem floor_mul_two_zpow (number : Int) (places : Nat) :
    ⌊(number : ℚ) * 2 ^ (places : Int)⌋ = number * 2 ^ places := by
  rw [zpow_natCast]
  exact_mod_cast Int.floor_intCast (number * 2 ^ places)

theorem floor_mul_two_zpow_neg (number : Int) (places : Nat) :
    ⌊(number : ℚ) * 2 ^ (-places : Int)⌋ = number / 2 ^ places := by
  rw [zpow_neg, zpow_natCast, ← div_eq_mul_inv]
  exact_mod_cast Rat.floor_intCast_div_natCast number (2 ^ places)

/-! ## Amounts -/

theorem signedOf_eq (word : UInt32) :
    signedOf word =
      if 2 * word.toNat < 2 ^ 32 then (word.toNat : Int) else word.toNat - 2 ^ 32 :=
  BitVec.toInt_eq_toNat_cond word.toBitVec

theorem and_signBit_eq_zero_iff (word : UInt32) :
    word &&& 0x80000000 = 0 ↔ 0 ≤ signedOf word := by
  have bound := word.toNat_lt
  have masked : (word &&& 0x80000000).toNat = (word.toNat.testBit 31).toNat * 2 ^ 31 := by
    rw [UInt32.toNat_and]
    exact Nat.and_two_pow word.toNat 31
  rw [← UInt32.toNat_inj, masked, signedOf_eq, Nat.testBit_eq_decide_div_mod_eq]
  by_cases negative : word.toNat / 2 ^ 31 % 2 = 1
  · rw [decide_eq_true negative]
    simp only [Bool.toNat_true, UInt32.reduceToNat]
    split <;> omega
  · rw [decide_eq_false negative]
    simp only [Bool.toNat_false, UInt32.reduceToNat]
    split <;> omega

theorem toNat_and_31 (word : UInt32) : (word &&& 31).toNat = word.toNat % 32 := by
  rw [UInt32.toNat_and]
  exact Nat.and_two_pow_sub_one_eq_mod word.toNat 5

/-- The complement of the low bits counts down to the multiple of 32. -/
theorem toNat_not_and_31_add_one (word : UInt32) :
    ((~~~word &&& 31) + 1).toNat = 32 - word.toNat % 32 := by
  have bound := word.toNat_lt
  rw [UInt32.toNat_add, toNat_and_31, UInt32.toNat_not]
  simp [UInt32.size]
  omega

/-- The distance from -32 to 31 with the sign and the low five bits of an amount. -/
structure Reduces (amount : UInt32) (distance : Int) : Prop where
  least : -32 ≤ distance
  most : distance ≤ 31
  sign : distance < 0 ↔ signedOf amount < 0
  low : distance % 32 = (amount &&& 31).toNat

theorem existsUnique_reduces (amount : UInt32) : ∃! distance, Reduces amount distance := by
  have low := toNat_and_31 amount
  by_cases negative : signedOf amount < 0
  · refine ⟨amount.toNat % 32 - 32, ⟨by omega, by omega, by omega, by omega⟩, ?_⟩
    intro distance reduces
    have := reduces.sign.mpr negative
    have := reduces.least
    have := reduces.low
    omega
  · refine ⟨amount.toNat % 32, ⟨by omega, by omega, by omega, by omega⟩, ?_⟩
    intro distance reduces
    have := reduces.sign.not.mpr negative
    have := reduces.most
    have := reduces.low
    omega

theorem reduces_signedOf {amount : UInt32} (least : -32 ≤ signedOf amount)
    (most : signedOf amount ≤ 31) : Reduces amount (signedOf amount) := by
  refine ⟨least, most, Iff.rfl, ?_⟩
  rw [toNat_and_31, signedOf_eq]
  split <;> omega

/-! ## The two shifts -/

inductive RegisterShift where
  | arithmetic
  | logical
deriving DecidableEq, Repr

namespace RegisterShift

def operation : RegisterShift → Combination
  | arithmetic => .shiftArithmetic
  | logical => .shiftLogical

def reading : RegisterShift → UInt32 → Int
  | arithmetic => signedOf
  | logical => unsignedOf

def right (shift : RegisterShift) (word : UInt32) (places : Nat) : UInt32 :=
  match shift with
  | arithmetic => ⟨word.toBitVec.sshiftRight places⟩
  | logical => ⟨word.toBitVec >>> places⟩

def emptied (shift : RegisterShift) (word : UInt32) : UInt32 :=
  match shift with
  | arithmetic => ⟨word.toBitVec.sshiftRight 31⟩
  | logical => 0

variable (shift : RegisterShift) (word : UInt32)

theorem result_eq (amount : UInt32) :
    shift.operation.result amount word =
      Combination.shift word amount (shift.right word) (shift.emptied word) := by
  cases shift <;> rfl

theorem faithful_reading : Faithful shift.reading := by
  cases shift with
  | arithmetic => exact faithful_signedOf
  | logical => exact faithful_unsignedOf

theorem toBitVec_right (places : Nat) :
    (shift.right word places).toBitVec = .ofInt 32 (shift.reading word / 2 ^ places) := by
  rw [← shift.faithful_reading (shift.right word places)]
  congr 1
  cases shift with
  | arithmetic =>
      have shifted : signedOf (right .arithmetic word places) = signedOf word >>> places :=
        BitVec.toInt_sshiftRight
      exact shifted.trans (Int.shiftRight_eq_div_pow _ _)
  | logical =>
      have shifted : (right .logical word places).toNat = word.toNat / 2 ^ places :=
        (BitVec.toNat_ushiftRight _ _).trans (Nat.shiftRight_eq_div_pow _ _)
      simp only [reading, unsignedOf, shifted]
      exact Int.natCast_ediv _ _ |>.trans (by norm_cast)

theorem toBitVec_emptied :
    (shift.emptied word).toBitVec = .ofInt 32 (shift.reading word / 2 ^ 32) := by
  have bound := word.toNat_lt
  cases shift with
  | arithmetic =>
      rw [show emptied .arithmetic word = right .arithmetic word 31 from rfl, toBitVec_right]
      have equal := signedOf_eq word
      congr 1
      simp only [reading]
      split at equal <;> omega
  | logical =>
      have gone : unsignedOf word / 2 ^ 32 = 0 := by
        simp only [unsignedOf]
        omega
      simp only [reading, gone]
      rfl

theorem toBitVec_shiftLeft (amount : UInt32) :
    (word <<< (amount &&& 31)).toBitVec =
      .ofInt 32 (shift.reading word * 2 ^ (amount &&& 31).toNat) := by
  have small : (amount &&& 31).toNat % 32 = (amount &&& 31).toNat := by
    rw [toNat_and_31, Nat.mod_mod]
  have power : BitVec.ofInt 32 (2 ^ (amount &&& 31).toNat) = .twoPow 32 (amount &&& 31).toNat := by
    rw [← BitVec.toNat_inj, BitVec.toNat_twoPow]
    norm_cast
  rw [BitVec.ofInt_mul, shift.faithful_reading, power, ← BitVec.shiftLeft_eq_mul_twoPow]
  apply BitVec.eq_of_toNat_eq
  rw [UInt32.toNat_toBitVec, UInt32.toNat_shiftLeft, small, BitVec.toNat_shiftLeft]
  rfl

theorem toBitVec_result {amount : UInt32} {distance : Int} (reduces : Reduces amount distance) :
    (shift.operation.result amount word).toBitVec =
      .ofInt 32 ⌊(shift.reading word : ℚ) * 2 ^ distance⌋ := by
  have low := reduces.low
  have least := reduces.least
  have most := reduces.most
  rw [result_eq, Combination.shift]
  by_cases positive : amount &&& 0x80000000 = 0
  · have distanceEq : distance = (amount &&& 31).toNat := by
      have := reduces.sign.not.mpr (Int.not_lt.mpr ((and_signBit_eq_zero_iff amount).mp positive))
      omega
    rw [if_pos positive, distanceEq, floor_mul_two_zpow, shift.toBitVec_shiftLeft]
  · have negative : distance < 0 :=
      reduces.sign.mpr (Int.not_le.mp ((and_signBit_eq_zero_iff amount).not.mp positive))
    rw [if_neg positive]
    by_cases multiple : amount &&& 31 = 0
    · have distanceEq : distance = -(32 : Nat) := by
        rw [multiple, UInt32.toNat_zero] at low
        omega
      rw [if_pos multiple, distanceEq, floor_mul_two_zpow_neg, toBitVec_emptied]
    · have distanceEq : distance = -((~~~amount &&& 31) + 1).toNat := by
        rw [← UInt32.toNat_inj, UInt32.toNat_zero] at multiple
        rw [toNat_and_31] at low multiple
        rw [toNat_not_and_31_add_one]
        omega
      rw [if_neg multiple, distanceEq, floor_mul_two_zpow_neg, toBitVec_right]

def code (shift : RegisterShift) (amount destination : Register) : UInt16 :=
  match shift with
  | arithmetic => .ofNat (0x400c + 256 * destination.val + 16 * amount.val)
  | logical => .ofNat (0x400d + 256 * destination.val + 16 * amount.val)

theorem decode?_code (amount destination : Register) :
    Instruction.decode? (shift.code amount destination) =
      some (.combine shift.operation (.register amount) destination) := by
  revert amount destination
  cases shift <;> decide +kernel

end RegisterShift

/-! ## Shifts on a machine -/

namespace Machine

/-- What a shift by a register does to a machine. The amount may stand in the register that is
shifted. -/
structure Shifts (machine after : Machine) (shift : RegisterShift)
    (amount destination : Register) : Prop where
  exact : ∀ distance, Reduces (machine.register amount) distance →
    (after.register destination).toBitVec =
      .ofInt 32 ⌊(shift.reading (machine.register destination) : ℚ) * 2 ^ distance⌋
  reduced : ∃! distance, Reduces (machine.register amount) distance
  small : -32 ≤ signedOf (machine.register amount) → signedOf (machine.register amount) ≤ 31 →
    Reduces (machine.register amount) (signedOf (machine.register amount))
  registers : ∀ register, register ≠ .general destination →
    after.data register = machine.data register
  t : after.t = machine.t
  memory : after.memory = machine.memory

variable {machine : Machine} {shift : RegisterShift} {amount destination : Register}

theorem shifts_of_fetched
    (fetched : machine.memory.readWord machine.pc = .ok (shift.code amount destination)) :
    ∃ after, machine.step = (after, .ok .generic) ∧
      machine.Shifts after shift amount destination := by
  let result := (machine.entered (shift.code amount destination)).setRegister destination
    (shift.operation.result (machine.register amount) (machine.register destination))
  have steps : machine.step = (result.landed machine.pendingBranch, .ok .generic) :=
    step_eq_ok_iff.mpr ⟨_, _, result, fetched, shift.decode?_code amount destination, rfl, rfl⟩
  refine ⟨_, steps, ?_⟩
  constructor
  case exact =>
    intro distance reduces
    have shifted : (result.landed machine.pendingBranch).register destination = _ :=
      (data_landed result _ (.general destination)).trans
        (register_setRegister_same _ destination _)
    rw [shifted]
    exact shift.toBitVec_result _ reduces
  case reduced => exact existsUnique_reduces _
  case small => exact reduces_signedOf
  case registers =>
    intro register other
    rw [data_landed]
    exact data_setData_other (machine.entered _) _ other.symm
  case t => exact t_landed result _
  case memory => exact memory_landed result _

/-- A machine in front of an arithmetic shift of register 1 by itself, to the right by all of its
32 places. -/
def selfShifting : Machine :=
  { Machine.start (.filled 2 fun index => [0x1c, 0x41].getD index 0) with
    registers := Vector.replicate 16 0xffffffe0 }

theorem selfShifting_shifts :
    ∃ after, selfShifting.step = (after, .ok .generic) ∧
      selfShifting.Shifts after .arithmetic .one .one ∧ after.register .one = 0xffffffff := by
  have fetched : selfShifting.memory.readWord selfShifting.pc =
      .ok (RegisterShift.arithmetic.code .one .one) := by rfl
  rcases shifts_of_fetched fetched with ⟨after, steps, shifts⟩
  have result : selfShifting.step.1.register .one = 0xffffffff := by rfl
  rw [steps] at result
  exact ⟨after, steps, shifts, result⟩

end Machine

end SuperHBench
