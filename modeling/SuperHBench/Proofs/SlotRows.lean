import Mathlib.Data.List.Induction
import SuperHBench.Proofs.Session.Arguments

/-! # Rows of slots

Asking the convention for one slot after another gives each argument the slot that the
arguments in front of it leave over. No two of these slots meet, and those on the stack fill
it without gaps. -/

namespace SuperHBench

def ArgumentKind.slotIn : ArgumentKind → Register → ArgumentSlot
  | .general => .register
  | .float => .float

namespace ArgumentSlot

def offset? : ArgumentSlot → Option Nat
  | .register _ | .float _ => none
  | .stack offset => some offset.toNat

theorem offset?_slotIn (kind : ArgumentKind) (index : Register) :
    (kind.slotIn index).offset? = none := by
  cases kind <;> rfl

theorem ne_of_apart {pointer : UInt32} {slot other : ArgumentSlot}
    (apart : slot.Apart pointer other) : slot ≠ other := by
  rintro rfl
  cases slot with
  | register | float => exact apart rfl
  | stack offset => rcases apart with low | high <;> omega

end ArgumentSlot

namespace CallingConvention

def assign (convention : CallingConvention) :
    List ArgumentKind → List ArgumentSlot × CallingConvention
  | [] => ([], convention)
  | kind :: rest =>
      let (slot, convention) := convention.next kind
      let (slots, convention) := convention.assign rest
      (slot :: slots, convention)

theorem assign_concat (convention : CallingConvention) (kinds : List ArgumentKind)
    (kind : ArgumentKind) :
    convention.assign (kinds ++ [kind]) =
      ((convention.assign kinds).1 ++ [((convention.assign kinds).2.next kind).1],
        ((convention.assign kinds).2.next kind).2) := by
  induction kinds generalizing convention with
  | nil => rfl
  | cons first rest induction =>
      rw [List.cons_append, assign]
      simp only [induction]
      rfl

def slots (kinds : List ArgumentKind) : List ArgumentSlot :=
  (start.assign kinds).1

theorem assign_start (kinds : List ArgumentKind) :
    start.assign kinds = (slots kinds, behind kinds) := by
  induction kinds using List.reverseRecOn with
  | nil => rfl
  | append_singleton kinds kind induction =>
      rw [slots, assign_concat, induction, next_behind]

theorem slots_concat (kinds : List ArgumentKind) (kind : ArgumentKind) :
    slots (kinds ++ [kind]) = slots kinds ++ [slotBehind kinds kind] := by
  rw [slots, assign_concat, assign_start, next_behind]

theorem length_slots (kinds : List ArgumentKind) : (slots kinds).length = kinds.length := by
  induction kinds using List.reverseRecOn with
  | nil => rfl
  | append_singleton kinds kind induction =>
      rw [slots_concat, List.length_append, List.length_append, induction, List.length_singleton,
        List.length_singleton]

theorem slots_prefix (kinds later : List ArgumentKind) :
    slots kinds <+: slots (kinds ++ later) := by
  induction later using List.reverseRecOn with
  | nil => exact ⟨[], by rw [List.append_nil, List.append_nil]⟩
  | append_singleton later kind induction =>
      rw [← List.append_assoc, slots_concat]
      exact induction.trans (List.prefix_append _ _)

theorem getElem?_slots (earlier later : List ArgumentKind) (kind : ArgumentKind) :
    (slots (earlier ++ kind :: later))[earlier.length]? = some (slotBehind earlier kind) := by
  have front := slots_prefix (earlier ++ [kind]) later
  rw [slots_concat, ← List.append_cons] at front
  rcases front with ⟨others, whole⟩
  rw [← whole, List.append_assoc, ← length_slots earlier,
    List.getElem?_append_right (Nat.le_refl _), Nat.sub_self]
  rfl

theorem exists_of_mem_slots {kinds : List ArgumentKind} {slot : ArgumentSlot}
    (member : slot ∈ slots kinds) :
    ∃ earlier kind, earlier ++ [kind] <+: kinds ∧ slot = slotBehind earlier kind := by
  induction kinds using List.reverseRecOn with
  | nil => cases member
  | append_singleton kinds last induction =>
      rw [slots_concat, List.mem_append, List.mem_singleton] at member
      rcases member with member | rfl
      · rcases induction member with ⟨earlier, kind, before, found⟩
        exact ⟨earlier, kind, before.trans (List.prefix_append _ _), found⟩
      · exact ⟨kinds, last, List.prefix_rfl, rfl⟩

/-! ## Slots on the stack -/

theorem spilled_le_length (kinds : List ArgumentKind) : spilled kinds ≤ kinds.length := by
  induction kinds using List.reverseRecOn with
  | nil => exact Nat.zero_le _
  | append_singleton kinds kind induction =>
      rw [List.length_append, List.length_singleton]
      rcases Nat.lt_or_ge (kinds.count kind) registerCount with room | full
      · rw [spilled_concat_of_register room]
        exact Nat.le_succ_of_le induction
      · rw [spilled_concat_of_stack full]
        exact Nat.succ_le_succ induction

theorem toNat_stackSize {kinds : List ArgumentKind} (short : kinds.length < Word.count 30) :
    (behind kinds).stackSize.toNat = 4 * spilled kinds := by
  have small : spilled kinds < 2 ^ 30 := Nat.lt_of_le_of_lt (spilled_le_length kinds) short
  have fits : 4 * spilled kinds < 2 ^ 32 := by omega
  exact UInt32.toNat_ofNat_of_lt' fits

variable {earlier : List ArgumentKind} {kind : ArgumentKind}

theorem slotBehind_of_register (room : earlier.count kind < registerCount) :
    slotBehind earlier kind = kind.slotIn (registerOf (earlier.count kind)) := by
  rw [slotBehind, if_pos room]
  cases kind <;> rfl

theorem slotBehind_of_stack (full : registerCount ≤ earlier.count kind) :
    slotBehind earlier kind = .stack (behind earlier).stackSize := by
  rw [slotBehind, if_neg (Nat.not_lt.mpr full)]
  rfl

def offsets (slots : List ArgumentSlot) : List Nat :=
  slots.filterMap ArgumentSlot.offset?

theorem offsets_slots {kinds : List ArgumentKind} (short : kinds.length < Word.count 30) :
    offsets (slots kinds) = (List.range (spilled kinds)).map (4 * ·) := by
  induction kinds using List.reverseRecOn with
  | nil => rfl
  | append_singleton kinds kind induction =>
      rw [List.length_append, List.length_singleton] at short
      have bounded := Nat.lt_of_succ_lt short
      have before := induction bounded
      rw [offsets] at before
      rw [offsets, slots_concat, List.filterMap_append, before]
      rcases Nat.lt_or_ge (kinds.count kind) registerCount with room | full
      · rw [slotBehind_of_register room, spilled_concat_of_register room,
          List.filterMap_cons_none (ArgumentSlot.offset?_slotIn _ _)]
        exact List.append_nil _
      · have found : (slotBehind kinds kind).offset? = some (4 * spilled kinds) := by
          rw [slotBehind_of_stack full, ArgumentSlot.offset?, toNat_stackSize bounded]
        rw [List.filterMap_cons_some found, spilled_concat_of_stack full, List.range_succ,
          List.map_append]
        rfl

/-! ## Slots of a row -/

theorem pairwise_apart_slots {kinds : List ArgumentKind} (short : kinds.length < Word.count 30) :
    (slots kinds).Pairwise (ArgumentSlot.Apart 0) := by
  induction kinds using List.reverseRecOn with
  | nil => exact .nil
  | append_singleton kinds kind induction =>
      rw [List.length_append, List.length_singleton] at short
      have small : spilled kinds < 2 ^ 30 :=
        Nat.lt_of_le_of_lt (spilled_le_length kinds) (Nat.lt_of_succ_lt short)
      have bounded : (0 : UInt32).toNat + 4 * spilled kinds < 2 ^ 32 := by
        rw [UInt32.toNat_zero]
        omega
      rw [slots_concat, List.pairwise_append]
      refine ⟨induction (Nat.lt_of_succ_lt short), List.pairwise_singleton _ _, ?_⟩
      intro slot member last among
      rw [List.mem_singleton.mp among]
      rcases exists_of_mem_slots member with ⟨earlier, other, before, rfl⟩
      exact apart_slotBehind before bounded

/-- A row of slots that the numbers of arguments in front of each determine. -/
structure Fills (kinds : List ArgumentKind) (slots : List ArgumentSlot)
    (after : CallingConvention) : Prop where
  length : slots.length = kinds.length
  register : ∀ earlier kind later, kinds = earlier ++ kind :: later → earlier.count kind < 4 →
    ∃ index : Register, index.val = 4 + earlier.count kind ∧
      slots[earlier.length]? = some (kind.slotIn index)
  stack : ∀ earlier kind later, kinds = earlier ++ kind :: later → 4 ≤ earlier.count kind →
    ∃ offset : UInt32,
      offset.toNat = 4 * ((earlier.count .general - 4) + (earlier.count .float - 4)) ∧
      slots[earlier.length]? = some (.stack offset)
  apart : slots.Pairwise (ArgumentSlot.Apart 0)
  distinct : slots.Nodup
  gapless : offsets slots = (List.range (offsets slots).length).map (4 * ·)
  stackSize : after.stackSize.toNat = 4 * (offsets slots).length

/-- Both kinds of registers are used up on their own, and what is left over goes to the stack in
the order in which it comes. -/
theorem fills_of_length_lt {kinds : List ArgumentKind} (short : kinds.length < Word.count 30) :
    Fills kinds (start.assign kinds).1 (start.assign kinds).2 := by
  have apart := pairwise_apart_slots short
  have stacked := offsets_slots short
  have count : (offsets (slots kinds)).length = spilled kinds := by
    rw [stacked, List.length_map, List.length_range]
  rw [assign_start]
  constructor
  case length => exact length_slots kinds
  case register =>
    rintro earlier kind later rfl room
    refine ⟨registerOf (earlier.count kind), Nat.mod_eq_of_lt (by omega), ?_⟩
    rw [getElem?_slots, slotBehind_of_register room]
  case stack =>
    rintro earlier kind later rfl full
    have shorter : earlier.length < Word.count 30 := by
      rw [List.length_append] at short
      exact Nat.lt_of_le_of_lt (Nat.le_add_right _ _) short
    refine ⟨(behind earlier).stackSize, toNat_stackSize shorter, ?_⟩
    rw [getElem?_slots, slotBehind_of_stack full]
  case apart => exact apart
  case distinct => exact apart.imp ArgumentSlot.ne_of_apart
  case gapless => rw [count, stacked]
  case stackSize => rw [count, toNat_stackSize short]

/-- A row that runs out of general registers long before it runs out of the others. -/
def unevenKinds : List ArgumentKind :=
  [.general, .general, .float, .general, .general, .general, .float, .general, .float, .float,
    .float, .general]

theorem unevenKinds_fill :
    unevenKinds.length < Word.count 30 ∧
      Fills unevenKinds
        [.register 4, .register 5, .float 4, .register 6, .register 7, .stack 0, .float 5,
          .stack 4, .float 6, .float 7, .stack 8, .stack 12]
        ⟨4, 4, 16⟩ :=
  ⟨by decide, fills_of_length_lt (by decide)⟩

end CallingConvention

end SuperHBench
