import SuperHBench.CallingConvention
import Mathlib.Data.List.Count

/-! # Slots by what comes before

Where an argument goes depends on how many of each kind come before it, and on
nothing else. The walk along the convention is the successive reading of that
table. -/

namespace SuperHBench

namespace CallingConvention

/-- How many of a row of arguments find no register left. -/
def spilled (kinds : List ArgumentKind) : Nat :=
  (kinds.count .general - registerCount) + (kinds.count .float - registerCount)

def registerSlot (kind : ArgumentKind) (number : Nat) : ArgumentSlot :=
  match kind with
  | .general => .register (registerOf number)
  | .float => .float (registerOf number)

/-- The slot of an argument behind arguments of these kinds. -/
def slotBehind (earlier : List ArgumentKind) (kind : ArgumentKind) : ArgumentSlot :=
  if earlier.count kind < registerCount then
    registerSlot kind (earlier.count kind)
  else
    .stack (.ofNat (4 * spilled earlier))

def behind (earlier : List ArgumentKind) : CallingConvention where
  general := min (earlier.count .general) registerCount
  float := min (earlier.count .float) registerCount
  stackSize := .ofNat (4 * spilled earlier)

theorem behind_nil : behind [] = start :=
  rfl

variable {earlier : List ArgumentKind} {kind : ArgumentKind}

theorem spilled_concat_of_register (room : earlier.count kind < registerCount) :
    spilled (earlier ++ [kind]) = spilled earlier := by
  unfold registerCount at room
  cases kind <;> simp [spilled, registerCount, List.count_append] <;> omega

theorem spilled_concat_of_stack (full : registerCount ≤ earlier.count kind) :
    spilled (earlier ++ [kind]) = spilled earlier + 1 := by
  unfold registerCount at full
  cases kind <;> simp [spilled, registerCount, List.count_append] <;> omega

theorem spilled_mono {later : List ArgumentKind} (before : earlier <+: later) :
    spilled earlier ≤ spilled later := by
  have general := before.sublist.count_le .general
  have float := before.sublist.count_le .float
  unfold spilled
  omega

theorem stackSize_concat (full : registerCount ≤ earlier.count kind) :
    (behind earlier).stackSize + 4 = (behind (earlier ++ [kind])).stackSize := by
  change UInt32.ofNat (4 * spilled earlier) + 4 = _
  rw [behind, spilled_concat_of_stack full, Nat.mul_add, UInt32.ofNat_add]
  rfl

theorem next_behind (earlier : List ArgumentKind) (kind : ArgumentKind) :
    (behind earlier).next kind = (slotBehind earlier kind, behind (earlier ++ [kind])) := by
  rcases Nat.lt_or_ge (earlier.count kind) registerCount with room | full
  · have same := spilled_concat_of_register room
    have now := Nat.min_eq_left (Nat.le_of_lt room)
    have next := Nat.min_eq_left (Nat.succ_le_of_lt room)
    cases kind <;>
      simp only [CallingConvention.next, slotBehind, registerSlot, behind, same, now, room, if_true,
        List.count_append] <;>
      simp [next]
  · have grows := stackSize_concat full
    have now := Nat.min_eq_right full
    have next := Nat.min_eq_right (Nat.le_succ_of_le full)
    have none := Nat.not_lt.mpr full
    simp only [behind] at grows
    cases kind <;>
      simp only [CallingConvention.next, nextOnStack, slotBehind, behind, now, none, grows,
        List.count_append, Nat.lt_irrefl, if_false] <;>
      simp [next]

end CallingConvention

end SuperHBench
