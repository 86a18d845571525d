import SuperHBench.Proofs.Session.Judging
import SuperHBench.Proofs.Strings

/-! # Strings that are expected

A string is compared by reading a little more of it than is expected. That tells every other
string apart, longer ones too, so an argument or a store is accepted exactly where the whole
string is the expected one. -/

namespace SuperHBench

def Memory.HoldsStringOf (memory : Memory) (value : Value) (contents : List UInt8) : Prop :=
  ∃ pointer, value = .long pointer ∧ memory.HoldsString pointer contents

namespace Judging

theorem run_checkArgument_string_eq_ok_iff {machine : Machine} {function : String}
    {slot : ArgumentSlot} {contents : List UInt8} {session after : Session} :
    (checkArgument machine function slot (.string contents)).run session = .ok ⟨⟩ after ↔
      (∃ pointer location, machine.slot slot = .ok (pointer, location) ∧
        machine.memory.HoldsString pointer contents) ∧ session = after := by
  have short := length_lt_stringLimit contents
  simp only [checkArgument, run_bind_eq_ok_iff, run_inspect_eq_ok_iff, run_guard_eq_ok_iff]
  constructor
  · rintro ⟨⟨pointer, location⟩, _, ⟨found, rfl⟩, actual, _, ⟨held, rfl⟩, same, rfl⟩
    rw [Decidable.not_not.mp same] at held
    have holds := (machine.memory.readStringWithin_eq_ok_iff short).mp held
    exact ⟨⟨pointer, location, found, holds⟩, rfl⟩
  · rintro ⟨⟨pointer, location, found, holds⟩, rfl⟩
    have held := (machine.memory.readStringWithin_eq_ok_iff short).mpr holds
    exact ⟨(pointer, location), session, ⟨found, rfl⟩, contents, session, ⟨held, rfl⟩,
      fun differs => differs rfl, rfl⟩

section Stores

variable {session after : Session} {address target : UInt32} {contents : List UInt8}
variable {rest : List Expectation} {value : Value}

theorem holds_of_run_judgeWrite (front : session.pending = .stringWrite address contents :: rest)
    (succeeds : (judgeWrite target value).run session = .ok ⟨⟩ after)
    (strict : after.pending = rest ∨ target = address) :
    target = address ∧ session.machine.memory.HoldsStringOf value contents := by
  cases run_judgeWrite_eq_ok_iff.mp succeeds with
  | stackStore _ _ _ allowed =>
      rcases strict with taken | rfl
      · -- nothing is taken where a store to the stack is allowed
        exact absurd (front.symm.trans taken) (List.cons_ne_self _ _)
      · simp [Session.allowsStackWrite, Session.wantsWrite, front,
          Expectation.writtenAddress?] at allowed
  | expectedStore _ _ _ _ _ other =>
      rw [front] at other
      cases other
  | expectedString _ pointer _ _ _ _ other held =>
      rw [front] at other
      cases other
      exact ⟨rfl, pointer, rfl, (session.machine.memory.readStringWithin_eq_ok_iff
        (length_lt_stringLimit contents)).mp held⟩

theorem exists_run_judgeWrite (front : session.pending = .stringWrite address contents :: rest)
    (holds : session.machine.memory.HoldsStringOf value contents) :
    ∃ after, (judgeWrite address value).run session = .ok ⟨⟩ after ∧ after.pending = rest := by
  rcases holds with ⟨pointer, rfl, held⟩
  have strict : session.allowsStackWrite address = false := by
    simp [Session.allowsStackWrite, Session.wantsWrite, front, Expectation.writtenAddress?]
  have found := (session.machine.memory.readStringWithin_eq_ok_iff
    (length_lt_stringLimit contents)).mpr held
  have judged := Judged.expectedString address pointer contents session rest strict front found
  exact ⟨_, run_judgeWrite_eq_ok_iff.mpr judged, congrArg List.tail front⟩

end Stores

end Judging

/-- A string is told from all others, however long they are and however they end. -/
structure TellsString (contents : List UInt8) : Prop where
  /-- From an address inside memory the limited read finds the string exactly where the whole
  string is this one. -/
  reads : ∀ (memory : Memory) (pointer : UInt32), pointer.toNat < memory.size →
    ∃ found whole, memory.readStringWithin (stringLimit contents) pointer = .ok found ∧
      memory.readString pointer = .ok whole ∧ (found = contents ↔ whole = contents)
  whole : ∀ (memory : Memory) (pointer : UInt32),
    memory.readString pointer = .ok contents ↔ memory.HoldsString pointer contents
  argument : ∀ (machine : Machine) (function : String) (slot : ArgumentSlot)
      (session after : Session),
    (Judging.checkArgument machine function slot (.string contents)).run session =
        .ok ⟨⟩ after ↔
      (∃ pointer location, machine.slot slot = .ok (pointer, location) ∧
        machine.memory.HoldsString pointer contents) ∧ session = after
  written : ∀ (session : Session) (address : UInt32) (rest : List Expectation)
      (target : UInt32) (value : Value), session.pending = .stringWrite address contents :: rest →
    ((∃ after, (Judging.judgeWrite target value).run session = .ok ⟨⟩ after ∧
        after.pending = rest) ↔
      target = address ∧ session.machine.memory.HoldsStringOf value contents)
  /-- Anything else that is written to the address ends the run. -/
  refused : ∀ (session : Session) (address : UInt32) (rest : List Expectation) (value : Value),
    session.pending = .stringWrite address contents :: rest →
    ¬session.machine.memory.HoldsStringOf value contents →
    ∃ error failed, (Judging.judgeWrite address value).run session = .error error failed

theorem tellsString (contents : List UInt8) : TellsString contents := by
  have short := length_lt_stringLimit contents
  constructor
  case reads =>
    intro memory pointer inside
    have located : memory.locate pointer = .ok pointer.toNat := if_pos inside
    have found : memory.readStringWithin (stringLimit contents) pointer =
        .ok (memory.stringAt pointer.toNat (stringLimit contents)) := by
      rw [Memory.readStringWithin, located]
      rfl
    have whole : memory.readString pointer =
        .ok (memory.stringAt pointer.toNat (memory.size - pointer.toNat)) := by
      rw [Memory.readString, located]
      rfl
    have same := @Memory.readStringWithin_eq_ok_iff_readString memory _ pointer _ short
    rw [found, whole, Except.ok.injEq, Except.ok.injEq] at same
    exact ⟨_, _, found, whole, same⟩
  case whole =>
    intro memory pointer
    exact memory.readString_eq_ok_iff
  case argument =>
    intro machine function slot session after
    exact Judging.run_checkArgument_string_eq_ok_iff
  case written =>
    intro session address rest target value front
    constructor
    · intro ⟨after, succeeds, taken⟩
      exact Judging.holds_of_run_judgeWrite front succeeds (.inl taken)
    · rintro ⟨rfl, holds⟩
      exact Judging.exists_run_judgeWrite front holds
  case refused =>
    intro session address rest value front different
    cases outcome : (Judging.judgeWrite address value).run session with
    | error error failed => exact ⟨error, failed, rfl⟩
    | ok result after =>
        exact absurd (Judging.holds_of_run_judgeWrite front outcome (.inr rfl)).2 different

/-- Of a longer string just enough is read to see that it is longer. -/
example :
    (Memory.filled 400 fun _ => 0x61).stringAt 100 (stringLimit (List.replicate 299 0x61)) =
      List.replicate 300 0x61 := by
  decide +kernel

end SuperHBench
