import SuperHBench.Proofs.Session.Judging
import SuperHBench.Proofs.WordReadings

/-! # Arithmetic routines

The division routines of the compiler split a dividend into a multiple of the divisor and a
remainder, whether words are read with a sign or without one. On a machine they change nothing
but the register of the result, and nothing at all if the divisor is zero. -/

namespace SuperHBench

/-! ## Division -/

structure Splits (read : UInt32 → Int) (dividend divisor quotient remainder : UInt32) : Prop where
  sum : quotient * divisor + remainder = dividend
  small : remainder = 0 ∨ (read remainder).natAbs < (read divisor).natAbs
  sign : remainder = 0 ∨ (read remainder).sign = (read dividend).sign

/-- Division that cuts off splits every dividend, even where its quotient wraps around. -/
theorem splits_of_tdiv {read : UInt32 → Int} (faithful : Faithful read)
    {dividend divisor quotient remainder : UInt32}
    (nonzero : read divisor ≠ 0)
    (divides : quotient.toBitVec = .ofInt 32 ((read dividend).tdiv (read divisor)))
    (rest : read remainder = (read dividend).tmod (read divisor)) :
    Splits read dividend divisor quotient remainder := by
  constructor
  case sum =>
    apply UInt32.toBitVec_inj.mp
    rw [UInt32.toBitVec_add, UInt32.toBitVec_mul, divides, ← faithful divisor,
      ← faithful remainder, rest, ← BitVec.ofInt_mul, ← BitVec.ofInt_add, Int.tdiv_mul_add_tmod,
      faithful]
  case small =>
    right
    rw [rest, Int.natAbs_tmod]
    exact Nat.mod_lt _ (Int.natAbs_pos.mpr nonzero)
  case sign =>
    by_cases exact : read divisor ∣ read dividend
    · left
      exact faithful.eq_zero (rest.trans (Int.tmod_eq_zero_of_dvd exact))
    · right
      rw [rest, Int.sign_tmod, if_neg exact]

namespace Intrinsic

theorem splits_unsigned (dividend : UInt32) {divisor : UInt32} (nonzero : divisor ≠ 0) :
    Splits unsignedOf dividend divisor (divideUnsigned.result dividend divisor)
      (remainderUnsigned.result dividend divisor) := by
  apply splits_of_tdiv faithful_unsignedOf
  · exact fun zero => nonzero (faithful_unsignedOf.eq_zero zero)
  · rw [unsignedOf, unsignedOf, ← Int.ofNat_tdiv, ← UInt32.toNat_div]
    exact (faithful_unsignedOf (dividend / divisor)).symm
  · rw [unsignedOf, result, UInt32.toNat_mod]
    exact Int.ofNat_tmod _ _

theorem splits_signed (dividend : UInt32) {divisor : UInt32} (nonzero : divisor ≠ 0) :
    Splits signedOf dividend divisor (divideSigned.result dividend divisor)
      (remainderSigned.result dividend divisor) := by
  apply splits_of_tdiv faithful_signedOf
  · exact fun zero => nonzero (faithful_signedOf.eq_zero zero)
  · apply BitVec.eq_of_toInt_eq
    rw [BitVec.toInt_ofInt]
    exact BitVec.toInt_sdiv _ _
  · exact BitVec.toInt_srem _ _

theorem unsigned_exact (dividend divisor : UInt32) :
    (divideUnsigned.result dividend divisor).toNat * divisor.toNat +
      (remainderUnsigned.result dividend divisor).toNat = dividend.toNat := by
  rw [result, result, UInt32.toNat_div, UInt32.toNat_mod, Nat.mul_comm, Nat.div_add_mod]

theorem signedOf_divideSigned {dividend divisor : UInt32}
    (fits : signedOf dividend ≠ -Word.count 31 ∨ signedOf divisor ≠ -1) :
    signedOf (divideSigned.result dividend divisor) =
      (signedOf dividend).tdiv (signedOf divisor) := by
  apply BitVec.toInt_sdiv_of_ne_or_ne
  refine fits.imp (fun other same => other ?_) (fun other same => other ?_)
  · exact (congrArg BitVec.toInt same).trans (by decide)
  · exact (congrArg BitVec.toInt same).trans (by decide)

theorem divideSigned_least {dividend divisor : UInt32} (least : signedOf dividend = -Word.count 31)
    (negated : signedOf divisor = -1) :
    signedOf (divideSigned.result dividend divisor) = -Word.count 31 ∧
      remainderSigned.result dividend divisor = 0 := by
  have dividendEq : dividend = 0x80000000 := UInt32.toBitVec_inj.mp (BitVec.eq_of_toInt_eq least)
  have divisorEq : divisor = 0xffffffff := UInt32.toBitVec_inj.mp (BitVec.eq_of_toInt_eq negated)
  rw [dividendEq, divisorEq]
  decide

def names : List (String × Intrinsic) :=
  [("__divls", divideSigned), ("__modls", remainderSigned), ("__divlu", divideUnsigned),
    ("__modlu", remainderUnsigned)]

theorem ofName?_eq_some_iff {name : String} {routine : Intrinsic} :
    ofName? name = some routine ↔ (name, routine) ∈ names := by
  constructor
  · intro found
    have named := List.find?_some found
    rw [← of_decide_eq_true named]
    cases routine <;> decide
  · intro member
    simp only [names, List.mem_cons, List.not_mem_nil, or_false, Prod.mk.injEq] at member
    rcases member with ⟨rfl, rfl⟩ | ⟨rfl, rfl⟩ | ⟨rfl, rfl⟩ | ⟨rfl, rfl⟩
    · exact ofName?_name divideSigned
    · exact ofName?_name remainderSigned
    · exact ofName?_name divideUnsigned
    · exact ofName?_name remainderUnsigned

theorem run_eq_error {machine : Machine} (zero : machine.register .zero = 0)
    (routine : Intrinsic) :
    routine.run machine = .error (.divisionByZero routine.name machine.instructionPc) := by
  rw [run, if_pos zero]

theorem run_eq_ok {machine : Machine} (nonzero : machine.register .zero ≠ 0)
    (routine : Intrinsic) :
    routine.run machine = .ok (machine.setRegister .zero
      (routine.result (machine.register .one) (machine.register .zero))) := by
  rw [run, if_neg nonzero]

end Intrinsic

/-! ## Routines on a machine -/

/-- What the routines make of a machine with this dividend and divisor, and of a session that
calls them. -/
structure Machine.Divides (machine : Machine) (dividend divisor : UInt32) : Prop where
  named : ∀ name routine, Intrinsic.ofName? name = some routine ↔
    (name, routine) ∈ Intrinsic.names
  fails : divisor = 0 → ∀ routine : Intrinsic,
    routine.run machine = .error (.divisionByZero routine.name machine.instructionPc)
  succeeds : divisor ≠ 0 → ∀ routine : Intrinsic,
    routine.run machine = .ok (machine.setRegister .zero (routine.result dividend divisor))
  unsigned : divisor ≠ 0 →
    Splits unsignedOf dividend divisor (Intrinsic.divideUnsigned.result dividend divisor)
      (Intrinsic.remainderUnsigned.result dividend divisor)
  exact : (Intrinsic.divideUnsigned.result dividend divisor).toNat * divisor.toNat +
    (Intrinsic.remainderUnsigned.result dividend divisor).toNat = dividend.toNat
  signed : divisor ≠ 0 →
    Splits signedOf dividend divisor (Intrinsic.divideSigned.result dividend divisor)
      (Intrinsic.remainderSigned.result dividend divisor)
  cutsOff : signedOf dividend ≠ -Word.count 31 ∨ signedOf divisor ≠ -1 →
    signedOf (Intrinsic.divideSigned.result dividend divisor) =
      (signedOf dividend).tdiv (signedOf divisor)
  wraps : signedOf dividend = -Word.count 31 → signedOf divisor = -1 →
    signedOf (Intrinsic.divideSigned.result dividend divisor) = -Word.count 31 ∧
      Intrinsic.remainderSigned.result dividend divisor = 0
  /-- A call of a routine is the routine, and changes nothing if that fails. -/
  called : ∀ (session : Session) (target : UInt32) (routine : Intrinsic),
    session.machine = machine → session.routineAt? target = some routine →
    (Judging.judgeCall target).run session =
      match routine.run machine with
      | .ok after => .ok ⟨⟩ { session with machine := after }
      | .error error => .error (.simulation error) session
  other : ∀ (session : Session) (target : UInt32),
    session.machine = machine → session.routineAt? target = none →
    (Judging.judgeCall target).run session =
      (Judging.meetCall (session.calleeName? target) (session.calleeText target)).run session

theorem Judging.run_judgeCall_of_routine {session : Session} {target : UInt32}
    {routine : Intrinsic} (named : session.routineAt? target = some routine) :
    (judgeCall target).run session =
      match routine.run session.machine with
      | .ok after => .ok ⟨⟩ { session with machine := after }
      | .error error => .error (.simulation error) session := by
  rw [run_judgeCall, named]
  cases outcome : routine.run session.machine with
  | ok after =>
      simp only [outcome]
      rfl
  | error error =>
      simp only [outcome]
      rfl

/-- Whatever the machine, register 1 is divided by register 0. -/
theorem Machine.divides (machine : Machine) :
    machine.Divides (machine.register .one) (machine.register .zero) := by
  constructor
  case named => exact fun _ _ => Intrinsic.ofName?_eq_some_iff
  case fails => exact Intrinsic.run_eq_error
  case succeeds => exact Intrinsic.run_eq_ok
  case unsigned => exact Intrinsic.splits_unsigned _
  case exact => exact Intrinsic.unsigned_exact _ _
  case signed => exact Intrinsic.splits_signed _
  case cutsOff => exact Intrinsic.signedOf_divideSigned
  case wraps => exact Intrinsic.divideSigned_least
  case called =>
    rintro session target routine rfl named
    exact Judging.run_judgeCall_of_routine named
  case other =>
    rintro session target - unusual
    rw [Judging.run_judgeCall, unusual]

end SuperHBench
