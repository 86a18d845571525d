import Std.Data.ExtTreeMap
import Std.Data.ExtTreeMap.Lemmas
import SuperHBench.Word

/-! # Memory

Flat little-endian memory of a fixed size. Only the bytes that differ in origin
from the background are stored, so memory of any size is cheap to create and two
memories written alike are equal.

The view of a memory is `byte`: every operation is described by what it does to
the byte at each index. Reads look at their first address only and see zeros past
the end; writes never fail and lose what falls past the end. -/

namespace SuperHBench

inductive MemoryError where
  | outOfBounds (address : UInt32) (size : Nat)
deriving DecidableEq, Repr

def MemoryError.message : MemoryError → String
  | .outOfBounds address size =>
      s!"out of bounds memory access at {Text.address address} " ++
        s!"(memory size {Text.hexNumber size})"

structure Memory where
  size : Nat
  /-- What the bytes hold that were never written. -/
  background : Nat → UInt8
  written : Std.ExtTreeMap Nat UInt8

namespace Memory

def defaultSize : Nat :=
  0x1000000

def filled (size : Nat) (background : Nat → UInt8) : Memory :=
  ⟨size, background, ∅⟩

def zeroed (size : Nat) : Memory :=
  filled size fun _ => 0

/-! ## Bytes -/

/-- The byte at an index; past the end there are only zeros. -/
def byte (memory : Memory) (index : Nat) : UInt8 :=
  if index < memory.size then
    memory.written.getD index (memory.background index)
  else
    0

def setByte (memory : Memory) (index : Nat) (value : UInt8) : Memory :=
  if index < memory.size then
    { memory with written := memory.written.insert index value }
  else
    memory

@[simp] theorem size_setByte (memory : Memory) (index : Nat) (value : UInt8) :
    (memory.setByte index value).size = memory.size := by
  unfold setByte
  split <;> rfl

theorem byte_of_size_le (memory : Memory) {index : Nat} (past : memory.size ≤ index) :
    memory.byte index = 0 := by
  simp [byte, Nat.not_lt.mpr past]

theorem byte_setByte_same (memory : Memory) {index : Nat} (value : UInt8)
    (inside : index < memory.size) : (memory.setByte index value).byte index = value := by
  simp [byte, setByte, inside, Std.ExtTreeMap.getD_insert_self]

theorem byte_setByte_other (memory : Memory) {index other : Nat} (value : UInt8)
    (different : index ≠ other) :
    (memory.setByte index value).byte other = memory.byte other := by
  unfold setByte
  split
  · simp [byte, Std.ExtTreeMap.getD_insert, different]
  · rfl

/-! ## Writing -/

def writeFrom (memory : Memory) (index : Nat) : List UInt8 → Memory
  | [] => memory
  | value :: rest => (memory.setByte index value).writeFrom (index + 1) rest

/-- Store bytes from an address on. The address never wraps around. -/
def writeBytes (memory : Memory) (address : UInt32) (bytes : List UInt8) : Memory :=
  memory.writeFrom address.toNat bytes

def write (memory : Memory) (address : UInt32) (value : Value) : Memory :=
  memory.writeBytes address value.toBytes

@[simp] theorem size_writeFrom (memory : Memory) (index : Nat) (bytes : List UInt8) :
    (memory.writeFrom index bytes).size = memory.size := by
  induction bytes generalizing memory index with
  | nil => rfl
  | cons value rest induction => simp [writeFrom, induction]

@[simp] theorem size_writeBytes (memory : Memory) (address : UInt32) (bytes : List UInt8) :
    (memory.writeBytes address bytes).size = memory.size :=
  memory.size_writeFrom _ _

@[simp] theorem size_write (memory : Memory) (address : UInt32) (value : Value) :
    (memory.write address value).size = memory.size :=
  memory.size_writeBytes _ _

theorem byte_writeFrom (memory : Memory) (start index : Nat) (bytes : List UInt8)
    (inside : index < memory.size) :
    (memory.writeFrom start bytes).byte index =
      if start ≤ index then
        (bytes[index - start]?).getD (memory.byte index)
      else
        memory.byte index := by
  induction bytes generalizing memory start with
  | nil => simp [writeFrom]
  | cons value rest induction =>
      rw [writeFrom, induction _ _ (by simpa using inside)]
      rcases Nat.lt_trichotomy start index with before | equal | after
      · have next : index - start = (index - (start + 1)) + 1 := by omega
        rw [if_pos (by omega), if_pos (by omega), next, List.getElem?_cons_succ,
          byte_setByte_other _ _ (by omega)]
      · subst equal
        rw [if_neg (by omega), if_pos (Nat.le_refl _), byte_setByte_same _ _ inside]
        simp
      · rw [if_neg (by omega), if_neg (by omega), byte_setByte_other _ _ (by omega)]

/-! ## Reading -/

def locate (memory : Memory) (address : UInt32) : Except MemoryError Nat :=
  if address.toNat < memory.size then
    .ok address.toNat
  else
    .error (.outOfBounds address memory.size)

def wordAt (memory : Memory) (index : Nat) : UInt16 :=
  (memory.byte index).toUInt16 ||| (memory.byte (index + 1)).toUInt16 <<< 8

def longAt (memory : Memory) (index : Nat) : UInt32 :=
  (memory.wordAt index).toUInt32 ||| (memory.wordAt (index + 2)).toUInt32 <<< 16

def valueAt (memory : Memory) (index : Nat) : Width → Value
  | .byte => .byte (memory.byte index)
  | .word => .word (memory.wordAt index)
  | .long => .long (memory.longAt index)

def read (memory : Memory) (width : Width) (address : UInt32) : Except MemoryError Value :=
  (memory.locate address).map fun index => memory.valueAt index width

def readWord (memory : Memory) (address : UInt32) : Except MemoryError UInt16 :=
  (memory.locate address).map memory.wordAt

def readLong (memory : Memory) (address : UInt32) : Except MemoryError UInt32 :=
  (memory.locate address).map memory.longAt

/-- The bytes from an index up to the next zero byte, at most `limit` of them. -/
def stringAt (memory : Memory) (index : Nat) : (limit : Nat) → List UInt8
  | 0 => []
  | limit + 1 =>
      let head := memory.byte index
      if head = 0 then [] else head :: memory.stringAt (index + 1) limit

/-- A zero-terminated string. The end of memory terminates it too. -/
def readString (memory : Memory) (address : UInt32) : Except MemoryError (List UInt8) :=
  (memory.locate address).map fun index => memory.stringAt index (memory.size - index)

def readStringWithin (memory : Memory) (limit : Nat) (address : UInt32) :
    Except MemoryError (List UInt8) :=
  (memory.locate address).map fun index => memory.stringAt index limit

def slice (memory : Memory) (start length : Nat) : List UInt8 :=
  (List.range' start (min length (memory.size - start))).map memory.byte

theorem width_valueAt (memory : Memory) (index : Nat) (width : Width) :
    (memory.valueAt index width).width = width := by
  cases width <;> rfl

end Memory

end SuperHBench
