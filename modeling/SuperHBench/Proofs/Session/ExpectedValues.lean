import Mathlib.Data.Int.ModEq
import SuperHBench.Proofs.Session.Judging

/-! # Values that are expected

The number that is expected of an access is one way to spell a pattern of bits, with or without a
sign. An access of that width agrees with it if it moves the same pattern, and the pattern is the
number modulo the number of patterns. Any other access to the address ends the run. -/

namespace SuperHBench

theorem Word.natCast_count (width : Nat) : (Word.count width : Int) = 2 ^ width :=
  Nat.cast_pow 2 width

/-! ## Patterns -/

namespace Value

structure Fits (bits : Nat) (number : Int) : Prop where
  width : bits = 8 ∨ bits = 16 ∨ bits = 32
  least : -2 ^ (bits - 1) ≤ number
  most : number < 2 ^ bits

/-- The value has this many bits, and they are the lowest bits of the number. -/
structure Agrees (value : Value) (bits : Nat) (number : Int) : Prop where
  width : value.bits = bits
  pattern : value.raw.toNat ≡ number [ZMOD 2 ^ bits]

theorem toNat_raw_lt (value : Value) : value.raw.toNat < 2 ^ value.bits := by
  cases value with
  | byte contents => exact (UInt8.toNat_toUInt32 _).trans_lt contents.toNat_lt
  | word contents => exact (UInt16.toNat_toUInt32 _).trans_lt contents.toNat_lt
  | long contents => exact contents.toNat_lt

theorem toNat_raw_truncate (width : Width) (contents : UInt32) :
    (truncate width contents).raw.toNat = contents.toNat % 2 ^ width.bits := by
  cases width with
  | byte => exact (UInt8.toNat_toUInt32 _).trans (UInt32.toNat_toUInt8 _)
  | word => exact (UInt16.toNat_toUInt32 _).trans (UInt32.toNat_toUInt16 _)
  | long => exact (Nat.mod_eq_of_lt contents.toNat_lt).symm

theorem eq_of_bits_eq_of_raw_eq {left right : Value} (sameBits : left.bits = right.bits)
    (sameRaw : left.raw = right.raw) : left = right := by
  have sameWidth : some left.width = some right.width := by
    rw [← left.width.ofBits?_bits, ← right.width.ofBits?_bits]
    exact congrArg Width.ofBits? sameBits
  exact eq_of_width_eq_of_raw_eq (Option.some.inj sameWidth) sameRaw

theorem eq_of_modEq {left right : Value} (sameBits : left.bits = right.bits)
    (same : left.raw.toNat ≡ right.raw.toNat [ZMOD 2 ^ left.bits]) : left = right := by
  have leftBound := left.toNat_raw_lt
  have rightBound := right.toNat_raw_lt
  rw [← sameBits] at rightBound
  have sameNat : left.raw.toNat ≡ right.raw.toNat [MOD 2 ^ left.bits] := by
    apply Int.natCast_modEq_iff.mp
    push_cast
    exact same
  exact eq_of_bits_eq_of_raw_eq sameBits
    (UInt32.toNat_inj.mp (sameNat.eq_of_lt_of_lt leftBound rightBound))

theorem agrees_truncate (width : Width) (number : Int) :
    (truncate width (UInt32.ofInt number)).Agrees width.bits number := by
  constructor
  case width => rw [bits, width_truncate]
  case pattern =>
    have divides : (2 : Int) ^ width.bits ∣ 2 ^ 32 := pow_dvd_pow 2 (by cases width <;> decide)
    have pattern : ((UInt32.ofInt number).toNat : Int) = number % 2 ^ 32 := by
      rw [UInt32.ofInt, UInt32.toNat_ofNat']
      omega
    rw [toNat_raw_truncate]
    push_cast
    rw [pattern]
    exact (Int.mod_modEq _ _).trans ((Int.mod_modEq number _).of_dvd divides)

theorem fits_iff {width : Width} {number : Int} :
    Fits width.bits number ↔
      -Word.count (width.bits - 1) ≤ number ∧ number < Word.count width.bits := by
  rw [Word.natCast_count, Word.natCast_count]
  constructor
  · exact fun fits => ⟨fits.least, fits.most⟩
  · exact fun ⟨least, most⟩ => ⟨by cases width <;> decide, least, most⟩

theorem Fits.exists_width {bits : Nat} {number : Int} (fits : Fits bits number) :
    ∃ width : Width, bits = width.bits := by
  rcases fits.width with rfl | rfl | rfl
  · exact ⟨.byte, rfl⟩
  · exact ⟨.word, rfl⟩
  · exact ⟨.long, rfl⟩

theorem ofInt_eq_ok_iff {bits : Nat} {number : Int} {value : Value} :
    ofInt bits number = .ok value ↔ Fits bits number ∧ value.Agrees bits number := by
  constructor
  · intro succeeds
    unfold ofInt at succeeds
    split at succeeds
    · cases succeeds
    · rename_i width found
      obtain rfl := Width.ofBits?_eq_some_iff.mp found
      split at succeeds
      · rename_i range
        cases succeeds
        exact ⟨fits_iff.mpr range, agrees_truncate width number⟩
      · cases succeeds
  · rintro ⟨fits, agrees⟩
    rcases fits.exists_width with ⟨width, rfl⟩
    have made := agrees_truncate width number
    have same : truncate width (UInt32.ofInt number) = value := by
      apply eq_of_modEq (made.width.trans agrees.width.symm)
      rw [made.width]
      exact made.pattern.trans agrees.pattern.symm
    simp only [ofInt, Width.ofBits?_bits, fits_iff.mp fits, same, and_self, if_true]

example : ofInt 8 (-1) = ofInt 8 255 := by rfl

theorem ofInt_eq_error {bits : Nat} {number : Int} {error : RangeError}
    (fails : ofInt bits number = .error error) : error = ⟨number, bits⟩ := by
  unfold ofInt at fails
  split at fails
  · exact (Except.error.inj fails).symm
  · rename_i width found
    obtain rfl := Width.ofBits?_eq_some_iff.mp found
    split at fails
    · cases fails
    · exact (Except.error.inj fails).symm

end Value

namespace MemoryAccess

theorem ofInt_eq_ok_iff {bits : Nat} {address : UInt32} {number : Int} {access : MemoryAccess} :
    ofInt bits address number = .ok access ↔
      Value.ofInt bits number = .ok access.value ∧ access.address = address := by
  unfold ofInt
  cases Value.ofInt bits number with
  | error error => simp [Except.map]
  | ok value =>
      cases access
      simp [Except.map, eq_comm, and_comm]

theorem eq_mk_iff_agrees {bits : Nat} {address : UInt32} {number : Int} {access : MemoryAccess}
    (made : ofInt bits address number = .ok access) (value : Value) :
    access = ⟨address, value⟩ ↔ value.Agrees bits number := by
  rcases ofInt_eq_ok_iff.mp made with ⟨madeValue, rfl⟩
  rcases Value.ofInt_eq_ok_iff.mp madeValue with ⟨fits, agrees⟩
  constructor
  · intro equal
    rw [show value = access.value from congrArg MemoryAccess.value equal.symm]
    exact agrees
  · intro also
    have again := Value.ofInt_eq_ok_iff.mpr ⟨fits, also⟩
    rw [madeValue] at again
    rw [← Except.ok.inj again]

theorem exists_mismatch (resolution : Resolution) {access : MemoryAccess} {source : UInt32}
    {value : Value} (different : access ≠ ⟨source, value⟩) :
    ∃ reason, access.mismatch? resolution source value = some reason :=
  Option.ne_none_iff_exists'.mp ((access.mismatch?_eq_none_iff resolution source value).not.mpr
    different)

end MemoryAccess

/-! ## Accesses that are judged -/

namespace Judging

/-- An action that takes the expectation in front where `accepts` holds. Everywhere else it fails
and leaves everything that is pending. -/
structure Decides (action : Judging PUnit) (session : Session) (accepts : Prop)
    (refusal : AccessMismatch → ExpectationError) : Prop where
  takes : accepts → ∃ after, action.run session = .ok ⟨⟩ after ∧
    after.pending = session.pending.tail ∧ after.fulfilled = session.fulfilled + 1
  refuses : ¬accepts → ∃ reason after,
    action.run session = .error (.expectation (refusal reason)) after ∧
      after.pending = session.pending ∧ after.fulfilled = session.fulfilled

variable {session : Session} {access : MemoryAccess} {rest : List Expectation}

theorem decides_meetWrite (access : MemoryAccess) (value : Value) (session : Session) :
    Decides (meetWrite access access.address value) session (access = ⟨access.address, value⟩)
      (.unexpectedWrite access.address (session.resolution.describe access.address)
        (.number value)) := by
  constructor
  case takes =>
    intro equal
    exact ⟨_, run_meetWrite_eq_ok_iff.mpr ⟨equal, rfl⟩, rfl, rfl⟩
  case refuses =>
    intro different
    rcases MemoryAccess.exists_mismatch session.resolution different with ⟨reason, differs⟩
    refine ⟨reason, session, ?_, rfl, rfl⟩
    rw [meetWrite, EStateM.run_bind, EStateM.run_get]
    simp only [differs]
    rfl

theorem decides_meetRead (access : MemoryAccess) (value : Value) (session : Session) :
    Decides (meetRead access access.address value) session (access = ⟨access.address, value⟩)
      (.unexpectedRead access.address (session.resolution.describe access.address)
        (.number value)) := by
  constructor
  case takes =>
    intro equal
    exact ⟨_, run_meetRead_eq_ok_iff.mpr (.inr ⟨equal, rfl⟩), rfl, rfl⟩
  case refuses =>
    intro different
    rcases MemoryAccess.exists_mismatch session.resolution different with ⟨reason, differs⟩
    refine ⟨reason, session, ?_, rfl, rfl⟩
    rw [meetRead, if_pos rfl, EStateM.run_bind, EStateM.run_get]
    simp only [differs]
    rfl

theorem Decides.of_run_eq {action other : Judging PUnit} {logged : Session} {accepts : Prop}
    {refusal : AccessMismatch → ExpectationError} (decides : Decides other logged accepts refusal)
    (same : action.run session = other.run logged) (pending : logged.pending = session.pending)
    (fulfilled : logged.fulfilled = session.fulfilled) :
    Decides action session accepts refusal := by
  constructor
  case takes =>
    rw [same, ← pending, ← fulfilled]
    exact decides.takes
  case refuses =>
    rw [same, ← pending, ← fulfilled]
    exact decides.refuses

theorem run_judgeRead {source : UInt32} {value : Value} :
    (judgeRead source value).run session =
      (match session.resolution.unresolvedAt? source with
      | some slot =>
          throw (.simulation (.unresolvedRead source slot.name session.machine.instructionPc))
      | none =>
          match session.pending with
          | .read expected :: _ => meetRead expected source value
          | _ => pure () : Judging PUnit).run (session.logRead source value) :=
  rfl

/-- A store to the address that is to be written next is no store to the stack, wherever the
stack is. -/
theorem decides_judgeWrite (front : session.pending = .write access :: rest) (value : Value) :
    Decides (judgeWrite access.address value) session (access = ⟨access.address, value⟩)
      (.unexpectedWrite access.address (session.resolution.describe access.address)
        (.number value)) := by
  have strict : session.allowsStackWrite access.address = false := by
    simp [Session.allowsStackWrite, Session.wantsWrite, front, Expectation.writtenAddress?]
  have same : (judgeWrite access.address value).run session =
      (meetWrite access access.address value).run (session.logWrite access.address value) := by
    rw [run_judgeWrite, strict, front]
    rfl
  exact (decides_meetWrite access value (session.logWrite access.address value)).of_run_eq same
    rfl rfl

theorem decides_judgeRead (front : session.pending = .read access :: rest)
    (resolved : session.resolution.unresolvedAt? access.address = none) (value : Value) :
    Decides (judgeRead access.address value) session (access = ⟨access.address, value⟩)
      (.unexpectedRead access.address (session.resolution.describe access.address)
        (.number value)) := by
  have same : (judgeRead access.address value).run session =
      (meetRead access access.address value).run (session.logRead access.address value) := by
    rw [run_judgeRead, resolved, front]
  exact (decides_meetRead access value (session.logRead access.address value)).of_run_eq same
    rfl rfl

end Judging

/-! ## Numbers that are expected -/

/-- What becomes of a number that is expected at an address, with so many bits. -/
structure ExpectsPattern (bits : Nat) (address : UInt32) (number : Int) : Prop where
  succeeds : (∃ access, MemoryAccess.ofInt bits address number = .ok access) ↔
    Value.Fits bits number
  fails : ∀ error, MemoryAccess.ofInt bits address number = .error error →
    error = ⟨number, bits⟩
  written : ∀ (access : MemoryAccess) (session : Session) (rest : List Expectation)
      (value : Value), MemoryAccess.ofInt bits address number = .ok access →
    session.pending = .write access :: rest →
    Judging.Decides (Judging.judgeWrite address value) session (value.Agrees bits number)
      (.unexpectedWrite address (session.resolution.describe address) (.number value))
  read : ∀ (access : MemoryAccess) (session : Session) (rest : List Expectation)
      (value : Value), MemoryAccess.ofInt bits address number = .ok access →
    session.pending = .read access :: rest →
    session.resolution.unresolvedAt? address = none →
    Judging.Decides (Judging.judgeRead address value) session (value.Agrees bits number)
      (.unexpectedRead address (session.resolution.describe address) (.number value))
  spellings : ∀ other access another, MemoryAccess.ofInt bits address number = .ok access →
    MemoryAccess.ofInt bits address other = .ok another →
    (access = another ↔ number ≡ other [ZMOD 2 ^ bits])

theorem expectsPattern (bits : Nat) (address : UInt32) (number : Int) :
    ExpectsPattern bits address number := by
  constructor
  case succeeds =>
    constructor
    · intro ⟨access, made⟩
      exact (Value.ofInt_eq_ok_iff.mp (MemoryAccess.ofInt_eq_ok_iff.mp made).1).1
    · intro fits
      rcases fits.exists_width with ⟨width, rfl⟩
      have made := Value.ofInt_eq_ok_iff.mpr ⟨fits, Value.agrees_truncate width number⟩
      exact ⟨⟨address, _⟩, MemoryAccess.ofInt_eq_ok_iff.mpr ⟨made, rfl⟩⟩
  case fails =>
    intro error fails
    cases outcome : Value.ofInt bits number with
    | ok value =>
        rw [MemoryAccess.ofInt, outcome] at fails
        cases fails
    | error cause =>
        rw [MemoryAccess.ofInt, outcome] at fails
        cases fails
        exact Value.ofInt_eq_error outcome
  case written =>
    intro access session rest value made front
    obtain rfl := (MemoryAccess.ofInt_eq_ok_iff.mp made).2
    rw [← MemoryAccess.eq_mk_iff_agrees made]
    exact Judging.decides_judgeWrite front value
  case read =>
    intro access session rest value made front resolved
    obtain rfl := (MemoryAccess.ofInt_eq_ok_iff.mp made).2
    rw [← MemoryAccess.eq_mk_iff_agrees made]
    exact Judging.decides_judgeRead front resolved value
  case spellings =>
    intro other access another made madeOther
    obtain rfl := (MemoryAccess.ofInt_eq_ok_iff.mp madeOther).2
    have agrees := (MemoryAccess.eq_mk_iff_agrees madeOther another.value).mp rfl
    rw [show (access = another) = (access = ⟨another.address, another.value⟩) from rfl,
      MemoryAccess.eq_mk_iff_agrees made]
    constructor
    · intro also
      exact also.pattern.symm.trans agrees.pattern
    · intro same
      exact ⟨agrees.width, agrees.pattern.trans same.symm⟩

end SuperHBench
