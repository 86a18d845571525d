import Mathlib.Data.Nat.Digits.Defs
import SuperHBench.Proofs.Machine.Steps
import SuperHBench.Proofs.MemoryContents

/-! # Chains of additions with carry

An addition with carry is exact: what does not fit the register goes to the condition. Numbers of
any length are therefore added limb by limb, as long as the condition goes from one addition to
the next. -/

namespace SuperHBench

/-! ## One addition -/

theorem toNat_add_wrap (word addend : UInt32) :
    2 ^ 32 * (decide (word + addend < word)).toNat + (word + addend).toNat =
      word.toNat + addend.toNat := by
  have wordBound := word.toNat_lt
  have addendBound := addend.toNat_lt
  rcases Nat.lt_or_ge (word.toNat + addend.toNat) (2 ^ 32) with fits | wraps
  · have sum : (word + addend).toNat = word.toNat + addend.toNat := by
      rw [UInt32.toNat_add, Nat.mod_eq_of_lt fits]
    have above : ¬word + addend < word := by
      rw [UInt32.lt_iff_toNat_lt]
      omega
    rw [decide_eq_false above, sum, Bool.toNat_false, Nat.mul_zero, Nat.zero_add]
  · have sum : (word + addend).toNat = word.toNat + addend.toNat - 2 ^ 32 := by
      rw [UInt32.toNat_add, Nat.mod_eq_sub_mod wraps, Nat.mod_eq_of_lt (by omega)]
    have below : word + addend < word := by
      rw [UInt32.lt_iff_toNat_lt]
      omega
    rw [decide_eq_true below, sum, Bool.toNat_true]
    omega

/-- Only one of the two additions can wrap around. -/
theorem toNat_carrySum (left right : UInt32) (carry : Bool) :
    2 ^ 32 * (carrySum left right carry).2.toNat + (carrySum left right carry).1.toNat =
      left.toNat + right.toNat + carry.toNat := by
  have first := toNat_add_wrap left right
  have second := toNat_add_wrap (left + right) carry.toUInt32
  have carryEq : carry.toUInt32.toNat = carry.toNat := by cases carry <;> rfl
  have carryBound : carry.toNat ≤ 1 := carry.toNat_le
  have leftBound := left.toNat_lt
  have rightBound := right.toNat_lt
  rw [carryEq] at second
  simp only [carrySum]
  cases wrapsFirst : decide (left + right < left) <;>
    cases wrapsSecond : decide (left + right + carry.toUInt32 < left + right) <;>
    simp only [wrapsFirst, wrapsSecond, Bool.toNat_false, Bool.toNat_true, Bool.or_false,
      Bool.or_true] at first second ⊢ <;>
    omega

example : carrySum 0xffffffff 0xffffffff true = (0xffffffff, true) := by decide

namespace Machine

def additionCode (source destination : Register) : UInt16 :=
  .ofNat (0x300e + 256 * destination.val + 16 * source.val)

theorem decode?_additionCode (source destination : Register) :
    Instruction.decode? (additionCode source destination) =
      some (.addWithCarry source destination) := by
  revert source destination
  decide +kernel

structure AddsWithCarry (machine after : Machine) (source destination : Register) : Prop where
  exact : 2 ^ 32 * after.t.toNat + (after.register destination).toNat =
    (machine.register destination).toNat + (machine.register source).toNat + machine.t.toNat
  registers : ∀ register, register ≠ .general destination →
    after.data register = machine.data register
  memory : after.memory = machine.memory

def afterAddition (machine : Machine) (source destination : Register) : Machine :=
  let sum := carrySum (machine.register destination) (machine.register source) machine.t
  { (machine.entered (additionCode source destination)).setRegister destination sum.1 with
    t := sum.2 }

variable {machine after : Machine} {source destination : Register}

theorem addsWithCarry_afterAddition (machine : Machine) (source destination : Register) :
    machine.AddsWithCarry (machine.afterAddition source destination) source destination := by
  constructor
  case exact =>
    have result : (machine.afterAddition source destination).register destination = _ :=
      register_setRegister_same _ destination _
    rw [result]
    exact toNat_carrySum _ _ _
  case registers =>
    intro register other
    exact data_setData_other (machine.entered _) _ other.symm
  case memory => rfl

theorem AddsWithCarry.landed (adds : machine.AddsWithCarry after source destination)
    (target : Option UInt32) :
    machine.AddsWithCarry (after.landed target) source destination := by
  have register : (after.landed target).register destination = after.register destination :=
    data_landed after target (.general destination)
  constructor
  case exact =>
    rw [t_landed, register]
    exact adds.exact
  case registers =>
    intro register other
    rw [data_landed]
    exact adds.registers register other
  case memory =>
    rw [memory_landed]
    exact adds.memory

theorem step_of_addition
    (fetched : machine.memory.readWord machine.pc = .ok (additionCode source destination)) :
    machine.step =
      ((machine.afterAddition source destination).landed machine.pendingBranch, .ok .generic) := by
  have performed : (machine.entered (additionCode source destination)).perform
      (additionCode source destination) =
        (machine.afterAddition source destination, .ok .generic) := by
    simp only [perform, decode?_additionCode]
    rfl
  rw [step_of_fetched fetched, performed]

theorem addsWithCarry_of_fetched
    (fetched : machine.memory.readWord machine.pc = .ok (additionCode source destination)) :
    machine.step.2 = .ok .generic ∧ machine.AddsWithCarry machine.step.1 source destination := by
  rw [step_of_addition fetched]
  exact ⟨rfl, (machine.addsWithCarry_afterAddition source destination).landed _⟩

end Machine

/-! ## Chains -/

/-- One place of two numbers, and the registers that the two limbs are put into. One register can
hold both only if they are equal. -/
structure Limbs where
  left : UInt32
  right : UInt32
  source : Register
  destination : Register
  same : source = destination → left = right

namespace Limbs

structure Loaded (limbs : Limbs) (machine : Machine) : Prop where
  fetched : machine.memory.readWord machine.pc =
    .ok (Machine.additionCode limbs.source limbs.destination)
  left : machine.register limbs.destination = limbs.left
  right : machine.register limbs.source = limbs.right

def value (words : List UInt32) : Nat :=
  Nat.ofDigits (2 ^ 32) (words.map UInt32.toNat)

/-- Additions one after another, each in a machine that has its limbs in place and the condition
that the addition before it has left. Whatever else is done in between is left open. -/
inductive Adds : (carry : Bool) → List Limbs → (results : List UInt32) → (final : Bool) → Prop
  | nil (carry : Bool) : Adds carry [] [] carry
  | cons {limbs : Limbs} {rest : List Limbs} {results : List UInt32} {final : Bool}
      (machine : Machine) (loaded : limbs.Loaded machine)
      (adds : Adds machine.step.1.t rest results final) :
      Adds machine.t (limbs :: rest) (machine.step.1.register limbs.destination :: results) final

theorem value_cons (word : UInt32) (words : List UInt32) :
    value (word :: words) = word.toNat + 2 ^ 32 * value words :=
  Nat.ofDigits_cons ..

theorem value_lt (words : List UInt32) : value words < 2 ^ (32 * words.length) := by
  induction words with
  | nil => exact Nat.one_pos
  | cons word rest induction =>
      have bound := word.toNat_lt
      rw [value_cons, List.length_cons, Nat.mul_succ, Nat.add_comm (32 * rest.length), Nat.pow_add]
      have := Nat.mul_le_mul_left (2 ^ 32) (Nat.succ_le_of_lt induction)
      omega

variable {carry final : Bool} {row : List Limbs} {results : List UInt32}

theorem Adds.length_eq (adds : Adds carry row results final) : results.length = row.length := by
  induction adds with
  | nil => rfl
  | cons machine loaded adds induction => rw [List.length_cons, List.length_cons, induction]

/-- What the limbs of the result lack of the sum is the condition in the end. -/
theorem Adds.exact (adds : Adds carry row results final) :
    2 ^ (32 * row.length) * final.toNat + value results =
      value (row.map left) + value (row.map right) + carry.toNat := by
  induction adds with
  | nil carry => simp [value]
  | @cons limbs rest results final machine loaded adds induction =>
      have single := (Machine.addsWithCarry_of_fetched loaded.fetched).2.exact
      rw [loaded.left, loaded.right] at single
      rw [List.map_cons, List.map_cons, value_cons, value_cons, value_cons, List.length_cons,
        Nat.mul_succ, Nat.add_comm (32 * rest.length), Nat.pow_add, Nat.mul_assoc]
      generalize 2 ^ (32 * rest.length) * final.toNat = carriedOut at induction ⊢
      omega

/-! ## Machines for a chain -/

def machine (limbs : Limbs) (carry : Bool) : Machine :=
  let code := Machine.additionCode limbs.source limbs.destination
  let blank := Machine.start (.filled 2 fun index =>
    if index = 0 then code.toUInt8 else (code >>> 8).toUInt8)
  { (blank.setRegister limbs.source limbs.right).setRegister limbs.destination limbs.left with
    t := carry }

theorem readWord_pair (code : UInt16) :
    (Memory.filled 2 fun index =>
      if index = 0 then code.toUInt8 else (code >>> 8).toUInt8).readWord 0 = .ok code := by
  have whole : (Memory.filled 2 fun index =>
      if index = 0 then code.toUInt8 else (code >>> 8).toUInt8).wordAt 0 = code := by
    apply UInt16.toNat_inj.mp
    have bound := code.toNat_lt
    rw [Memory.toNat_wordAt]
    simp only [Memory.byte, Memory.filled]
    simp [Nat.shiftRight_eq_div_pow]
    omega
  exact congrArg Except.ok whole

theorem loaded_machine (limbs : Limbs) (carry : Bool) : limbs.Loaded (limbs.machine carry) := by
  constructor
  case fetched => exact readWord_pair _
  case left => exact Machine.register_setRegister_same _ _ _
  case right =>
    by_cases same : limbs.source = limbs.destination
    · rw [same, ← limbs.same same]
      exact Machine.register_setRegister_same _ _ _
    · exact (Machine.register_setRegister_other _ _ (Ne.symm same)).trans
        (Machine.register_setRegister_same _ _ _)

theorem exists_adds (carry : Bool) (row : List Limbs) :
    ∃ results final, Adds carry row results final := by
  induction row generalizing carry with
  | nil => exact ⟨[], carry, .nil carry⟩
  | cons limbs rest induction =>
      rcases induction (limbs.machine carry).step.1.t with ⟨results, final, adds⟩
      exact ⟨_, final, .cons (limbs.machine carry) (limbs.loaded_machine carry) adds⟩

/-! ## Sums of numbers -/

structure AddsExactly (carry : Bool) (row : List Limbs) : Prop where
  runs : ∀ (machine : Machine) (source destination : Register),
    machine.memory.readWord machine.pc = .ok (Machine.additionCode source destination) →
    ∃ after, machine.step = (after, .ok .generic) ∧
      machine.AddsWithCarry after source destination
  chains : ∃ results final, Adds carry row results final
  sum : ∀ results final, Adds carry row results final →
    results.length = row.length ∧
    value results =
      (value (row.map left) + value (row.map right) + carry.toNat) % 2 ^ (32 * row.length)
  carryOut : ∀ results final, Adds carry row results final →
    final.toNat =
      (value (row.map left) + value (row.map right) + carry.toNat) / 2 ^ (32 * row.length)

theorem addsExactly (carry : Bool) (row : List Limbs) : AddsExactly carry row := by
  constructor
  case runs =>
    intro machine source destination fetched
    rcases Machine.addsWithCarry_of_fetched fetched with ⟨runs, adds⟩
    exact ⟨machine.step.1, Prod.ext rfl runs, adds⟩
  case chains => exact exists_adds carry row
  case sum =>
    intro results final adds
    have bound := adds.length_eq ▸ value_lt results
    refine ⟨adds.length_eq, ?_⟩
    rw [← adds.exact, Nat.mul_add_mod, Nat.mod_eq_of_lt bound]
  case carryOut =>
    intro results final adds
    have bound := adds.length_eq ▸ value_lt results
    rw [← adds.exact, Nat.mul_add_div (Nat.two_pow_pos _), Nat.div_eq_of_lt bound, Nat.add_zero]

end Limbs

end SuperHBench
