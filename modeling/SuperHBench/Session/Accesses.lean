import SuperHBench.Session.Calls

/-! # Accesses to memory

Stores outside the stack have to be expected; a store at or above the stack pointer
is allowed unless it goes to the very address that is to be written next. Loads are
free, except from slots that have no value, and except from the address that is to
be read next. -/

namespace SuperHBench

namespace Session

/-- Whether the next expectation wants this address written. -/
def wantsWrite (session : Session) (target : UInt32) : Bool :=
  session.pending.head?.bind Expectation.writtenAddress? = some target

def allowsStackWrite (session : Session) (target : UInt32) : Bool :=
  session.machine.stackPointer ≤ target && !session.wantsWrite target

end Session

/-! ## Comparison -/

def MemoryAccess.mismatch? (expected : MemoryAccess) (resolution : Resolution)
    (address : UInt32) (value : Value) : Option AccessMismatch :=
  if value.bits ≠ expected.value.bits then
    some (.width expected.value.bits)
  else if expected.address ≠ address then
    some (.address (resolution.describe expected.address))
  else if value.raw ≠ expected.value.raw then
    some (.value (.number expected.value))
  else
    none

theorem MemoryAccess.mismatch?_eq_none_iff (expected : MemoryAccess) (resolution : Resolution)
    (address : UInt32) (value : Value) :
    expected.mismatch? resolution address value = none ↔ expected = ⟨address, value⟩ := by
  constructor
  · intro noMismatch
    simp only [mismatch?] at noMismatch
    split at noMismatch <;> try contradiction
    rename_i sameBits
    split at noMismatch <;> try contradiction
    rename_i sameAddress
    split at noMismatch <;> try contradiction
    rename_i sameRaw
    have sameWidth : value.width = expected.value.width := by
      have bits := Decidable.not_not.mp sameBits
      have found := Width.ofBits?_bits value.width
      rw [show value.width.bits = expected.value.width.bits from bits,
        Width.ofBits?_bits] at found
      exact (Option.some.inj found).symm
    have sameValue := Value.eq_of_width_eq_of_raw_eq sameWidth (Decidable.not_not.mp sameRaw)
    obtain ⟨expectedAddress, expectedValue⟩ := expected
    simp_all
  · rintro rfl
    simp [mismatch?]

namespace Judging

/-! ## Stores -/

def meetWrite (expected : MemoryAccess) (target : UInt32) (value : Value) : Judging PUnit := do
  let session ← get
  let location := session.resolution.describe target
  match expected.mismatch? session.resolution target value with
  | some reason =>
      throw (.expectation (.unexpectedWrite target location (.number value) reason))
  | none => set (session.consume s!"Wrote {value.readable} to {location}")

/-- Compare a store with the string that is to be written next. The value stored has
to point to that string. -/
def meetStringWrite (address : UInt32) (contents : List UInt8) (target : UInt32)
    (value : Value) : Judging PUnit := do
  let session ← get
  let location := session.resolution.describe target
  let unexpected (actual : AccessValue) (reason : AccessMismatch) : RunError :=
    .expectation (.unexpectedWrite target location actual reason)
  if value.width ≠ .long then
    throw (unexpected (.number value) (.width 32))
  let written ← inspect
    (session.machine.memory.readStringWithin (stringLimit contents) value.raw)
  let actual := AccessValue.string written
  if address ≠ target then
    throw (unexpected actual (.address (session.resolution.describe address)))
  if written ≠ contents then
    throw (unexpected actual (.value (.string contents)))
  set (session.consume s!"Wrote string {actual.text} to {location}")

def judgeWrite (target : UInt32) (value : Value) : Judging PUnit := do
  modify fun session =>
    { session with coverage := session.coverage.logWrite target value.width.bytes }
  let session ← get
  let location := session.resolution.describe target
  if session.allowsStackWrite target then
    set (session.tell (.info s!"Allowed stack write of {value.readable} to {location}"))
  else
    match session.pending with
    | .write expected :: _ => meetWrite expected target value
    | .stringWrite address contents :: _ => meetStringWrite address contents target value
    | pending =>
        throw (.expectation (.unexpectedWrite target location (.number value)
          (.notExpected (describeNext pending))))

/-! ## Loads -/

/-- Compare a load with the read that is expected next. A load from elsewhere is not
a mismatch but simply not that read. -/
def meetRead (expected : MemoryAccess) (source : UInt32) (value : Value) : Judging PUnit := do
  if expected.address = source then
    let session ← get
    let location := session.resolution.describe source
    match expected.mismatch? session.resolution source value with
    | some reason =>
        throw (.expectation (.unexpectedRead source location (.number value) reason))
    | none => set (session.consume s!"Read {value.readable} from {location}")

def judgeRead (source : UInt32) (value : Value) : Judging PUnit := do
  modify fun session =>
    { session with coverage := session.coverage.logRead source value.width.bytes }
  let session ← get
  match session.resolution.unresolvedAt? source with
  | some slot =>
      throw (.simulation (.unresolvedRead source slot.name session.machine.instructionPc))
  | none =>
      match session.pending with
      | .read expected :: _ => meetRead expected source value
      | _ => pure ()

end Judging

end SuperHBench
