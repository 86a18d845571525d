import Mathlib.Data.Nat.Digits.Defs
import Mathlib.Order.Bounds.Defs
import SuperHBench.Proofs.MemoryContents

/-! # Histories of memory

Whatever was written before, a byte of memory is the one that was stored there last, or the one
that was there from the start. Reads put such bytes together and see zeros past the end, and a
string is the longest stretch without a zero. -/

namespace SuperHBench

/-! ## Writes -/

inductive MemoryWrite where
  | value (address : UInt32) (value : Value)
  | bytes (address : UInt32) (contents : List UInt8)

namespace MemoryWrite

def start : MemoryWrite → Nat
  | .value address _ | .bytes address _ => address.toNat

def contents : MemoryWrite → List UInt8
  | .value _ stored => (List.range stored.width.bytes).map stored.byteAt
  | .bytes _ contents => contents

/-- The places of a write. They do not go on at the start of memory, wherever it ends. -/
def Covers (write : MemoryWrite) (index : Nat) : Prop :=
  write.start ≤ index ∧ index < write.start + write.contents.length

def apply (write : MemoryWrite) (memory : Memory) : Memory :=
  match write with
  | .value address stored => memory.write address stored
  | .bytes address contents => memory.writeBytes address contents

variable (write : MemoryWrite) (memory : Memory)

theorem apply_eq : write.apply memory = memory.writeFrom write.start write.contents := by
  cases write with
  | value address stored => exact congrArg (memory.writeFrom address.toNat) stored.toBytes_eq
  | bytes address contents => rfl

@[simp] theorem size_apply : (write.apply memory).size = memory.size := by
  rw [apply_eq, Memory.size_writeFrom]

theorem byte_apply_of_not_covers {index : Nat} (free : ¬write.Covers index) :
    (write.apply memory).byte index = memory.byte index := by
  by_cases inside : index < memory.size
  · rw [apply_eq, Memory.byte_writeFrom _ _ _ _ inside]
    split
    · rename_i behind
      have past : write.contents.length ≤ index - write.start := by
        simp only [Covers, not_and] at free
        have := free behind
        omega
      rw [List.getElem?_eq_none past, Option.getD_none]
    · rfl
  · have past : memory.size ≤ index := Nat.le_of_not_lt inside
    rw [memory.byte_of_size_le past, Memory.byte_of_size_le _ (by rwa [size_apply])]

theorem byte_apply_of_covers {index : Nat} (covers : write.Covers index)
    (inside : index < memory.size) :
    write.contents[index - write.start]? = some ((write.apply memory).byte index) := by
  have within : index - write.start < write.contents.length := by
    have := covers.1
    have := covers.2
    omega
  rw [apply_eq, Memory.byte_writeFrom _ _ _ _ inside, if_pos covers.1,
    List.getElem?_eq_getElem within, Option.getD_some]

end MemoryWrite

namespace Memory

/-! ## Rows of writes -/

def after (memory : Memory) (history : List MemoryWrite) : Memory :=
  history.foldl (fun memory write => write.apply memory) memory

variable (memory : Memory) (history : List MemoryWrite)

@[simp] theorem size_after : (memory.after history).size = memory.size := by
  induction history generalizing memory with
  | nil => rfl
  | cons write rest induction => exact (induction _).trans (write.size_apply memory)

theorem after_append (later : List MemoryWrite) :
    memory.after (history ++ later) = (memory.after history).after later :=
  List.foldl_append

theorem byte_after_of_not_covers {index : Nat} (free : ∀ write ∈ history, ¬write.Covers index) :
    (memory.after history).byte index = memory.byte index := by
  induction history generalizing memory with
  | nil => rfl
  | cons write rest induction =>
      rw [List.forall_mem_cons] at free
      exact (induction _ free.2).trans (write.byte_apply_of_not_covers memory free.1)

theorem byte_after_of_last {earlier later : List MemoryWrite} {write : MemoryWrite} {index : Nat}
    (covers : write.Covers index) (inside : index < memory.size)
    (last : ∀ other ∈ later, ¬other.Covers index) :
    write.contents[index - write.start]? =
      some ((memory.after (earlier ++ write :: later)).byte index) := by
  rw [after_append]
  change _ = some (((write.apply (memory.after earlier)).after later).byte index)
  rw [byte_after_of_not_covers _ _ last]
  exact write.byte_apply_of_covers _ covers (by rwa [size_after])

example :
    let writes := [.value 2 (.long 0x12345678), .value 0 (.word 0x99aa), .bytes 1 [0x77]]
    (List.range 5).map ((filled 3 fun _ => 0x11).after writes).byte =
      [0xaa, 0x77, 0x78, 0, 0] := by rfl

/-! ## Reads -/

def spelled (index length : Nat) : Nat :=
  Nat.ofDigits 256 ((List.range' index length).map fun place => (memory.byte place).toNat)

theorem spelled_zero (index : Nat) : memory.spelled index 0 = 0 :=
  rfl

theorem spelled_succ (index length : Nat) :
    memory.spelled index (length + 1) =
      (memory.byte index).toNat + 256 * memory.spelled (index + 1) length :=
  Nat.ofDigits_cons ..

theorem toNat_raw_valueAt (index : Nat) (width : Width) :
    (memory.valueAt index width).raw.toNat = memory.spelled index width.bytes := by
  cases width with
  | byte =>
      simp only [Width.bytes, spelled_succ, spelled_zero]
      exact UInt8.toNat_toUInt32 _
  | word =>
      simp only [Width.bytes, spelled_succ, spelled_zero]
      exact (UInt16.toNat_toUInt32 _).trans (memory.toNat_wordAt index)
  | long =>
      simp only [Width.bytes, spelled_succ, spelled_zero]
      refine (memory.toNat_longAt index).trans ?_
      rw [toNat_wordAt, toNat_wordAt, Nat.add_assoc index 1 1, Nat.add_assoc index 2 1]
      omega

/-! ## Strings -/

/-- From an index on this many bytes are in memory, within the limit, and not zero. -/
structure RunsFor (index limit length : Nat) : Prop where
  short : length ≤ limit
  inside : index + length ≤ memory.size
  nonzero : ∀ place, index ≤ place → place < index + length → memory.byte place ≠ 0

theorem runsFor_zero {index : Nat} (inside : index ≤ memory.size) (limit : Nat) :
    memory.RunsFor index limit 0 :=
  ⟨Nat.zero_le limit, inside, by omega⟩

theorem runsFor_succ_iff {index limit length : Nat} :
    memory.RunsFor index (limit + 1) (length + 1) ↔
      memory.byte index ≠ 0 ∧ memory.RunsFor (index + 1) limit length := by
  constructor
  · intro ⟨short, inside, nonzero⟩
    refine ⟨nonzero index (by omega) (by omega), by omega, by omega, ?_⟩
    intro place behind within
    exact nonzero place (by omega) (by omega)
  · intro ⟨first, short, inside, nonzero⟩
    refine ⟨by omega, by omega, ?_⟩
    intro place behind within
    by_cases here : index = place
    · exact here ▸ first
    · exact nonzero place (by omega) (by omega)

theorem isGreatest_length_stringAt {index : Nat} (inside : index ≤ memory.size) (limit : Nat) :
    IsGreatest {length | memory.RunsFor index limit length}
      (memory.stringAt index limit).length := by
  induction limit generalizing index with
  | zero => exact ⟨memory.runsFor_zero inside 0, fun length runs => runs.short⟩
  | succ limit induction =>
      rw [stringAt]
      by_cases zero : memory.byte index = 0
      · rw [if_pos zero]
        refine ⟨memory.runsFor_zero inside _, ?_⟩
        rintro (_ | length) runs
        · exact Nat.le_refl 0
        · exact absurd zero (memory.runsFor_succ_iff.mp runs).1
      · have here : index < memory.size := by
          by_contra past
          exact zero (memory.byte_of_size_le (Nat.le_of_not_lt past))
        rcases induction here with ⟨runs, greatest⟩
        rw [if_neg zero]
        refine ⟨memory.runsFor_succ_iff.mpr ⟨zero, runs⟩, ?_⟩
        rintro (_ | length) runs
        · exact Nat.zero_le _
        · exact Nat.succ_le_succ (greatest (memory.runsFor_succ_iff.mp runs).2)

theorem stringAt_eq_map (index limit : Nat) :
    memory.stringAt index limit =
      (List.range' index (memory.stringAt index limit).length).map memory.byte := by
  induction limit generalizing index with
  | zero => rfl
  | succ limit induction =>
      rw [stringAt]
      split
      · rfl
      · rw [List.length_cons, List.range'_succ, List.map_cons, ← induction]

/-! ## What memory answers -/

/-- Reads look at their first address only, and give what the bytes spell. -/
structure Readable (memory : Memory) : Prop where
  refused : ∀ width address, memory.size ≤ address.toNat →
    memory.read width address = .error (.outOfBounds address memory.size)
  read : ∀ width address, address.toNat < memory.size →
    ∃ value, memory.read width address = .ok value ∧ value.width = width ∧
      value.raw.toNat = memory.spelled address.toNat width.bytes
  past : ∀ index, memory.size ≤ index → memory.byte index = 0
  readWord : ∀ address, (memory.readWord address).map .word = memory.read .word address
  readLong : ∀ address, (memory.readLong address).map .long = memory.read .long address
  noString : ∀ limit address, memory.size ≤ address.toNat →
    memory.readStringWithin limit address = .error (.outOfBounds address memory.size)
  string : ∀ limit address, address.toNat < memory.size →
    ∃ contents, memory.readStringWithin limit address = .ok contents ∧
      contents = (List.range' address.toNat contents.length).map memory.byte ∧
      IsGreatest {length | memory.RunsFor address.toNat limit length} contents.length

theorem locate_of_lt {address : UInt32} (inside : address.toNat < memory.size) :
    memory.locate address = .ok address.toNat :=
  if_pos inside

theorem locate_of_size_le {address : UInt32} (outside : memory.size ≤ address.toNat) :
    memory.locate address = .error (.outOfBounds address memory.size) :=
  if_neg (Nat.not_lt.mpr outside)

theorem readable : memory.Readable := by
  constructor
  case refused =>
    intro width address outside
    rw [Memory.read, memory.locate_of_size_le outside]
    rfl
  case read =>
    intro width address inside
    rw [Memory.read, memory.locate_of_lt inside]
    exact ⟨_, rfl, memory.width_valueAt _ width, memory.toNat_raw_valueAt _ width⟩
  case past => exact fun _ => memory.byte_of_size_le
  case readWord =>
    intro address
    rw [Memory.readWord, Memory.read]
    cases memory.locate address <;> rfl
  case readLong =>
    intro address
    rw [Memory.readLong, Memory.read]
    cases memory.locate address <;> rfl
  case noString =>
    intro limit address outside
    rw [readStringWithin, memory.locate_of_size_le outside]
    rfl
  case string =>
    intro limit address inside
    rw [readStringWithin, memory.locate_of_lt inside]
    exact ⟨_, rfl, memory.stringAt_eq_map _ limit,
      memory.isGreatest_length_stringAt (Nat.le_of_lt inside) limit⟩

structure Remembers (memory : Memory) (history : List MemoryWrite) : Prop where
  size : (memory.after history).size = memory.size
  initial : ∀ index, (∀ write ∈ history, ¬write.Covers index) →
    (memory.after history).byte index = memory.byte index
  last : ∀ earlier write later, history = earlier ++ write :: later →
    ∀ index < memory.size, write.Covers index → (∀ other ∈ later, ¬other.Covers index) →
    write.contents[index - write.start]? = some ((memory.after history).byte index)
  readable : (memory.after history).Readable

/-- Memory of any size remembers any writes, wherever they went. -/
theorem remembers : memory.Remembers history := by
  constructor
  case size => exact memory.size_after history
  case initial => exact fun _ => memory.byte_after_of_not_covers history
  case last =>
    rintro earlier write later rfl index inside covers last
    exact memory.byte_after_of_last covers inside last
  case readable => exact (memory.after history).readable

end Memory

end SuperHBench
