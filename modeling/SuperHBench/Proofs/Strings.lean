import SuperHBench.Session.Calls

/-! # Strings in memory

A string is read byte by byte up to its zero. Where the limit of a read lies behind
the string, the read finds a given string exactly when memory holds that string. -/

namespace SuperHBench

namespace Memory

structure HoldsStringAt (memory : Memory) (index : Nat) (contents : List UInt8) : Prop where
  bytes : ∀ position (within : position < contents.length),
    memory.byte (index + position) = contents[position]
  nonzero : 0 ∉ contents
  terminated : memory.byte (index + contents.length) = 0

/-- An address inside memory points to this zero-terminated string. -/
def HoldsString (memory : Memory) (address : UInt32) (contents : List UInt8) : Prop :=
  address.toNat < memory.size ∧ memory.HoldsStringAt address.toNat contents

theorem holdsStringAt_nil_iff (memory : Memory) (index : Nat) :
    memory.HoldsStringAt index [] ↔ memory.byte index = 0 := by
  constructor
  · intro holds
    exact holds.terminated
  · intro zero
    exact ⟨by simp, by simp, zero⟩

theorem holdsStringAt_cons_iff (memory : Memory) (index : Nat) (head : UInt8)
    (rest : List UInt8) :
    memory.HoldsStringAt index (head :: rest) ↔
      memory.byte index = head ∧ head ≠ 0 ∧ memory.HoldsStringAt (index + 1) rest := by
  constructor
  · intro holds
    have nonzero := holds.nonzero
    simp only [List.mem_cons, not_or] at nonzero
    refine ⟨holds.bytes 0 (by simp), Ne.symm nonzero.1, ?_, nonzero.2, ?_⟩
    · intro position within
      have found := holds.bytes (position + 1) (by simpa using within)
      rw [Nat.add_right_comm, Nat.add_assoc]
      exact found
    · have terminated := holds.terminated
      rw [List.length_cons] at terminated
      rw [Nat.add_right_comm, Nat.add_assoc]
      exact terminated
  · intro ⟨first, nonzero, holds⟩
    refine ⟨?_, by simp [Ne.symm nonzero, holds.nonzero], ?_⟩
    · intro position within
      cases position with
      | zero => exact first
      | succ position =>
          have found := holds.bytes position (by simpa using within)
          rw [Nat.add_right_comm, Nat.add_assoc] at found
          exact found
    · have terminated := holds.terminated
      rw [Nat.add_right_comm, Nat.add_assoc] at terminated
      exact terminated

theorem stringAt_eq_iff (memory : Memory) {index limit : Nat} {contents : List UInt8}
    (short : contents.length < limit) :
    memory.stringAt index limit = contents ↔ memory.HoldsStringAt index contents := by
  induction limit generalizing index contents with
  | zero => omega
  | succ limit induction =>
      rw [stringAt]
      cases contents with
      | nil =>
          rw [holdsStringAt_nil_iff]
          by_cases zero : memory.byte index = 0 <;> simp [zero]
      | cons head rest =>
          rw [holdsStringAt_cons_iff, ← induction (by simpa using short)]
          by_cases zero : memory.byte index = 0
          · rw [if_pos zero, zero]
            constructor
            · intro impossible
              cases impossible
            · intro ⟨first, nonzero, _⟩
              exact absurd first.symm nonzero
          · rw [if_neg zero, List.cons.injEq]
            constructor
            · intro ⟨first, others⟩
              exact ⟨first, first ▸ zero, others⟩
            · intro ⟨first, _, others⟩
              exact ⟨first, others⟩

theorem readStringWithin_eq_ok_iff (memory : Memory) {limit : Nat} {address : UInt32}
    {contents : List UInt8} (short : contents.length < limit) :
    memory.readStringWithin limit address = .ok contents ↔
      memory.HoldsString address contents := by
  unfold readStringWithin locate HoldsString
  by_cases inside : address.toNat < memory.size
  · simp only [inside, if_true, Except.map, Except.ok.injEq, true_and]
    exact memory.stringAt_eq_iff short
  · simp [inside, Except.map]

/-! ## Whole strings -/

theorem stringAt_of_size_le (memory : Memory) {index : Nat} (past : memory.size ≤ index)
    (limit : Nat) : memory.stringAt index limit = [] := by
  cases limit with
  | zero => rfl
  | succ limit => rw [stringAt, memory.byte_of_size_le past, if_pos rfl]

theorem stringAt_add (memory : Memory) {index limit : Nat}
    (reaches : memory.size ≤ index + limit) (more : Nat) :
    memory.stringAt index (limit + more) = memory.stringAt index limit := by
  induction limit generalizing index with
  | zero => exact memory.stringAt_of_size_le reaches (0 + more)
  | succ limit induction =>
      rw [Nat.add_right_comm, stringAt, stringAt, induction (by omega)]

theorem readString_eq_ok_iff (memory : Memory) {address : UInt32} {contents : List UInt8} :
    memory.readString address = .ok contents ↔ memory.HoldsString address contents := by
  unfold readString locate HoldsString
  by_cases inside : address.toNat < memory.size
  · simp only [inside, if_true, Except.map, Except.ok.injEq, true_and]
    rw [← memory.stringAt_add (by omega) (contents.length + 1)]
    exact memory.stringAt_eq_iff (by omega)
  · simp [inside, Except.map]

/-- Where the limit lies behind a given string, the string itself is all that it lets pass. -/
theorem readStringWithin_eq_ok_iff_readString (memory : Memory) {limit : Nat} {address : UInt32}
    {contents : List UInt8} (short : contents.length < limit) :
    memory.readStringWithin limit address = .ok contents ↔
      memory.readString address = .ok contents :=
  (memory.readStringWithin_eq_ok_iff short).trans memory.readString_eq_ok_iff.symm

end Memory

theorem length_lt_stringLimit (contents : List UInt8) :
    contents.length < stringLimit contents := by
  unfold stringLimit
  omega

end SuperHBench
