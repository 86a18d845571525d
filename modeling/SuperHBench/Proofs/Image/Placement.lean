import Mathlib.Data.List.Chain
import Mathlib.Data.List.Forall2
import Mathlib.Data.List.Induction
import Mathlib.Order.Bounds.Defs
import SuperHBench.Image

/-! # Placement of sections

Linking puts the sections of an object one behind another, each at the next multiple of its
alignment. The image is as long as they reach and holds their data, with zeros between. -/

namespace SuperHBench

namespace Section

/-! ## Data -/

/-- The data of a section came into it by `push` alone, whatever else was put into it. -/
inductive Filled : Section → Prop
  | blank {part : Section} (empty : part.fragments = []) : part.Filled
  | push {part next : Section} {fragment : Fragment} (filled : part.Filled)
      (pushed : part.push fragment = .ok next) : next.Filled
  | beside {part next : Section} (filled : part.Filled)
      (same : next.fragments = part.fragments) : next.Filled

theorem layOutEnd_append (position : Nat) (fragments others : List Fragment) :
    layOutEnd position (fragments ++ others) =
      layOutEnd (layOutEnd position fragments) others := by
  induction fragments generalizing position with
  | nil => rfl
  | cons fragment rest induction => exact induction _

theorem le_layOutEnd (position : Nat) (fragments : List Fragment) :
    position ≤ layOutEnd position fragments := by
  have length := length_layOut position fragments
  omega

/-- The section with other fragments for its data. -/
def holding (part : Section) (fragments : List Fragment) : Section :=
  { part with
    fragments
    assembledLength := Fragment.reach fragments
    assembledLength_eq := rfl }

theorem holding_fragments (part : Section) : part.holding part.fragments = part := by
  simp only [holding, ← part.assembledLength_eq]

theorem push_eq_ok_iff {part next : Section} {fragment : Fragment} :
    part.push fragment = .ok next ↔
      part.assembledLength ≤ fragment.address.toNat ∧
        next = part.append fragment := by
  rw [push]
  split
  · rename_i backward
    simp only [reduceCtorEq, false_iff]
    omega
  · rename_i forward
    simp only [Except.ok.injEq, Nat.not_lt.mp forward, true_and]
    exact eq_comm

/-- Where the last fragment ends is where all of them end, since they were pushed in order. -/
theorem Filled.assembledLength_eq {part : Section} (filled : part.Filled) :
    part.assembledLength = part.dataLength := by
  induction filled with
  | @blank part empty =>
      rw [part.assembledLength_eq, dataLength, empty]
      rfl
  | @push part next fragment filled pushed induction =>
      rcases push_eq_ok_iff.mp pushed with ⟨forward, rfl⟩
      rw [induction, dataLength] at forward
      rw [dataLength, fragments_append, layOutEnd_append, layOutEnd, Nat.max_eq_right forward]
      rfl
  | @beside part next filled same induction =>
      rw [next.assembledLength_eq, dataLength, same, ← part.assembledLength_eq]
      exact induction

def Follows (fragment next : Fragment) : Prop :=
  fragment.endOffset ≤ next.address.toNat

instance (fragment next : Fragment) : Decidable (Follows fragment next) :=
  inferInstanceAs (Decidable (_ ≤ _))

theorem filled_of_isChain {part : Section} (ascending : part.fragments.IsChain Follows) :
    part.Filled := by
  generalize fragmentsEq : part.fragments = fragments at ascending
  induction fragments using List.reverseRecOn generalizing part with
  | nil => exact .blank fragmentsEq
  | append_singleton rest fragment induction =>
      rw [List.isChain_append] at ascending
      have filled : (part.holding rest).Filled := induction rfl ascending.1
      have forward : (part.holding rest).assembledLength ≤ fragment.address.toNat := by
        change Fragment.reach rest ≤ _
        rw [Fragment.reach]
        cases last : rest.getLast? with
        | none => exact Nat.zero_le _
        | some before => exact ascending.2.2 before last fragment rfl
      exact (filled.push (push_eq_ok_iff.mpr ⟨forward, rfl⟩)).beside fragmentsEq

/-! ## Places -/

/-- The address that a section was given. -/
def base (part : Section) : UInt32 :=
  part.linkedAddress.getD 0

def start (part : Section) : Nat :=
  part.base.toNat

def stop (part : Section) : Nat :=
  part.start + part.assemble.length

/-- Where the section before an index stops. The first one follows on a position. -/
def stopBefore (position : Nat) (sections : List Section) : (index : Nat) → Nat
  | 0 => position
  | index + 1 => (sections[index]?.map stop).getD 0

theorem stopBefore_cons_succ (position : Nat) (part : Section) (rest : List Section)
    (index : Nat) :
    stopBefore position (part :: rest) (index + 1) = stopBefore part.stop rest index := by
  cases index <;> rfl

def Places (position : Nat) (part : Section) : Set Nat :=
  {place | max part.alignment.toNat 1 ∣ place ∧ position ≤ place}

theorem isLeast_alignUp (position : Nat) (part : Section) :
    IsLeast (Places position part) (alignUp position part.alignment.toNat) :=
  ⟨⟨dvd_alignUp _ _, le_alignUp _ _⟩, fun _ ⟨divides, above⟩ =>
    alignUp_le_of_dvd _ _ _ divides above⟩

theorem start_le_stop (part : Section) : part.start ≤ part.stop :=
  Nat.le_add_right _ _

/-- Sections one behind another, each at its next place. They follow on one position and
reach to another. -/
inductive Row : (position : Nat) → List Section → (reach : Nat) → Prop
  | nil (position : Nat) : Row position [] position
  | cons {position reach : Nat} {part : Section} {rest : List Section}
      (next : IsLeast (Places position part) part.start) (behind : Row part.stop rest reach) :
      Row position (part :: rest) reach

namespace Row

variable {position reach : Nat} {sections : List Section} {part : Section}

theorem position_le (row : Row position sections reach) : position ≤ reach := by
  induction row with
  | nil => exact Nat.le_refl _
  | @cons position reach part rest next behind induction =>
      exact Nat.le_trans next.1.2 (Nat.le_trans part.start_le_stop induction)

theorem position_le_start (row : Row position sections reach) (member : part ∈ sections) :
    position ≤ part.start := by
  induction row with
  | nil => cases member
  | @cons position reach first rest next behind induction =>
      rcases List.mem_cons.mp member with rfl | member
      · exact next.1.2
      · exact Nat.le_trans (Nat.le_trans next.1.2 first.start_le_stop) (induction member)

theorem stop_le (row : Row position sections reach) (member : part ∈ sections) :
    part.stop ≤ reach := by
  induction row with
  | nil => cases member
  | @cons position reach first rest next behind induction =>
      rcases List.mem_cons.mp member with rfl | member
      · exact behind.position_le
      · exact induction member

theorem pairwise (row : Row position sections reach) :
    sections.Pairwise fun left right => left.stop ≤ right.start := by
  induction row with
  | nil => exact .nil
  | cons next behind induction =>
      exact .cons (fun _ member => behind.position_le_start member) induction

theorem isLeast_start (row : Row position sections reach) {index : Nat}
    (found : sections[index]? = some part) :
    IsLeast (Places (stopBefore position sections index) part) part.start := by
  induction row generalizing index with
  | nil => cases found
  | @cons position reach first rest next behind induction =>
      cases index with
      | zero =>
          cases found
          exact next
      | succ index =>
          rw [stopBefore_cons_succ]
          exact induction found

theorem reach_eq (row : Row position sections reach) :
    reach = stopBefore position sections sections.length := by
  induction row with
  | nil => rfl
  | cons next behind induction =>
      rw [List.length_cons, stopBefore_cons_succ]
      exact induction

end Row

end Section

/-! ## Stretches of an image -/

namespace Stretch

theorem byteIn_append_of_outside {base position index : Nat} (fragments : List Fragment)
    (others : List Stretch)
    (outside : index < base + position ∨ base + Section.layOutEnd position fragments ≤ index) :
    byteIn index (ofFragments base position fragments ++ others) = byteIn index others := by
  induction fragments generalizing position with
  | nil => rfl
  | cons fragment rest induction =>
      rw [Section.layOutEnd] at outside
      rw [ofFragments, List.cons_append, byteIn]
      generalize startEq : max position fragment.address.toNat = start at outside
      have ends := Section.le_layOutEnd (start + fragment.data.length) rest
      have behind : index < base + (start + fragment.data.length) ∨
          base + Section.layOutEnd (start + fragment.data.length) rest ≤ index := by omega
      split
      · rename_i reached
        simp only at reached
        rw [List.getElem?_toArray, List.getElem?_eq_none (by simp only; omega)]
        exact induction behind
      · exact induction behind

theorem byteIn_append_of_eq_zero {index : Nat} (stretches others : List Stretch)
    (zero : byteIn index others = 0) :
    byteIn index (stretches ++ others) = byteIn index stretches := by
  induction stretches with
  | nil => exact zero
  | cons stretch rest induction =>
      rw [List.cons_append, byteIn, byteIn, induction]

end Stretch

namespace Image

def withData (image : Image) (base : Nat) (part : Section) : Image :=
  { image with stretches := Stretch.ofFragments base 0 part.fragments ++ image.stretches }

variable {image : Image} {base index : Nat} {part : Section}

theorem byte_withData_of_outside
    (outside : index < base ∨ base + part.assemble.length ≤ index) :
    (image.withData base part).byte index = image.byte index := by
  rw [Section.length_assemble] at outside
  exact Stretch.byteIn_append_of_outside part.fragments image.stretches outside

theorem byte_withData_of_zero (zero : image.byte index = 0) (reached : base ≤ index) :
    (image.withData base part).byte index = (part.assemble[index - base]?).getD 0 := by
  have found := Stretch.byteIn_ofFragments base part.fragments (Nat.zero_le (index - base))
  rw [show base + (index - base) = index by omega] at found
  exact (Stretch.byteIn_append_of_eq_zero _ _ zero).trans found

end Image

/-! ## Placing -/

theorem eq_of_place_cons {position : Nat} {part : Section} {rest placed : List Section}
    {image : Image} (places : place position (part :: rest) = .ok (placed, image)) :
    ∃ base others behind, base = alignUp position part.alignment.toNat ∧
      part.linkedAddress = none ∧ base < Word.count 32 ∧
      place (base + part.dataLength) rest = .ok (others, behind) ∧
      placed = part.relocate (UInt32.ofNat base) :: others ∧ image = behind.withData base part := by
  rw [place] at places
  split at places
  · cases places
  · rename_i unplaced
    dsimp only at places
    split at places
    · rename_i fits
      split at places
      · cases places
      · rename_i others behind outcome
        cases places
        exact ⟨_, others, behind, rfl, unplaced, fits, outcome, rfl, rfl⟩
    · cases places

/-- What placing sections behind a position makes of them and of the image. -/
structure Placement (position : Nat) (parts placed : List Section) (image : Image) : Prop where
  relocated : List.Forall₂ (fun part place => place = part.relocate place.base) parts placed
  row : Section.Row position placed image.length
  bounded : image.length < Word.count 32
  data : ∀ part ∈ placed, ∀ index, part.start ≤ index → index < part.stop →
    image.byte index = (part.assemble[index - part.start]?).getD 0
  gaps : ∀ index, (∀ part ∈ placed, index < part.start ∨ part.stop ≤ index) →
    image.byte index = 0

theorem Placement.cons {position base : Nat} {part : Section} {rest others : List Section}
    {behind : Image} (baseEq : base = alignUp position part.alignment.toNat)
    (fits : base < Word.count 32)
    (next : Placement (base + part.assemble.length) rest others behind) :
    Placement position (part :: rest) (part.relocate (UInt32.ofNat base) :: others)
      (behind.withData base part) := by
  generalize firstEq : part.relocate (UInt32.ofNat base) = first
  have relocated : first = part.relocate first.base := by
    subst firstEq
    rfl
  have assembled : first.assemble = part.assemble := by
    subst firstEq
    rfl
  have start : first.start = base := by
    subst firstEq
    exact UInt32.toNat_ofNat_of_lt' fits
  have stop : first.stop = base + part.assemble.length := by
    rw [Section.stop, start, assembled]
  have least : IsLeast (Section.Places position first) first.start := by
    rw [start, baseEq, relocated]
    exact Section.isLeast_alignUp position part
  rw [← stop] at next
  refine ⟨.cons relocated next.relocated, .cons least next.row, next.bounded, ?_, ?_⟩
  · intro placed member index reached before
    rcases List.mem_cons.mp member with rfl | member
    · -- All others start behind the section, so its data meets zeros only.
      have zero : behind.byte index = 0 := next.gaps index fun other among =>
        .inl (Nat.lt_of_lt_of_le before (next.row.position_le_start among))
      rw [assembled, start]
      exact Image.byte_withData_of_zero zero (start ▸ reached)
    · have after := Nat.le_trans (next.row.position_le_start member) reached
      rw [Image.byte_withData_of_outside (.inr (stop ▸ after))]
      exact next.data placed member index reached before
  · intro index free
    have outside := free first List.mem_cons_self
    rw [start, stop] at outside
    rw [Image.byte_withData_of_outside outside]
    exact next.gaps index fun other among => free other (List.mem_cons_of_mem _ among)

theorem placement_of_place {position : Nat} {parts placed : List Section} {image : Image}
    (places : place position parts = .ok (placed, image)) :
    Placement position parts placed image := by
  induction parts generalizing position placed image with
  | nil =>
      rw [place] at places
      split at places
      · rename_i fits
        cases places
        exact ⟨.nil, .nil position, fits, nofun, fun _ _ => rfl⟩
      · cases places
  | cons part rest induction =>
      rcases eq_of_place_cons places with
        ⟨base, others, behind, baseEq, unplaced, fits, outcome, rfl, rfl⟩
      rw [← Section.length_assemble] at outcome
      exact .cons baseEq fits (induction outcome)

/-! ## Linked objects -/

namespace SectionRange

def Before (range next : SectionRange) : Prop :=
  range.start ≤ range.stop ∧ range.stop ≤ next.start

theorem Before.disjoint {range next : SectionRange} (before : range.Before next)
    (address : UInt32) : ¬(range.covers address ∧ next.covers address) := by
  rintro ⟨first, second⟩
  simp only [covers, Bool.and_eq_true, decide_eq_true_eq] at first second
  exact UInt32.lt_irrefl _
    (UInt32.lt_of_lt_of_le first.2 (UInt32.le_trans before.2 second.1))

end SectionRange

namespace Section

def range (part : Section) : SectionRange :=
  ⟨part, part.base, part.base + UInt32.ofNat part.assemble.length⟩

theorem toNat_stop_range {part : Section} (fits : part.stop < Word.count 32) :
    part.range.stop.toNat = part.stop := by
  have length : part.assemble.length < 2 ^ 32 :=
    Nat.lt_of_le_of_lt (Nat.le_add_left _ _) fits
  rw [range, UInt32.toNat_add, UInt32.toNat_ofNat_of_lt' length]
  exact Nat.mod_eq_of_lt fits

theorem before_of_stop_le {part next : Section} (fits : part.stop < Word.count 32)
    (behind : part.stop ≤ next.start) : part.range.Before next.range := by
  constructor <;> rw [UInt32.le_iff_toNat_le, toNat_stop_range fits]
  · exact part.start_le_stop
  · exact behind

end Section

namespace Placement

variable {position : Nat} {parts placed : List Section} {image : Image}

theorem of_mem (placement : Placement position parts placed image) {place : Section}
    (member : place ∈ placed) :
    ∃ part ∈ parts, place = part.relocate place.base := by
  have relocated := placement.relocated
  clear placement
  induction relocated with
  | nil => cases member
  | cons moved others induction =>
      rcases List.mem_cons.mp member with rfl | member
      · exact ⟨_, List.mem_cons_self, moved⟩
      · rcases induction member with ⟨part, among, moved⟩
        exact ⟨part, List.mem_cons_of_mem _ among, moved⟩

theorem stop_lt (placement : Placement position parts placed image) {part : Section}
    (member : part ∈ placed) : part.stop < Word.count 32 :=
  Nat.lt_of_le_of_lt (placement.row.stop_le member) placement.bounded

theorem linkedAddress_eq (placement : Placement position parts placed image) {part : Section}
    (member : part ∈ placed) : part.linkedAddress = some part.base := by
  rcases placement.of_mem member with ⟨origin, -, moved⟩
  rw [moved]
  rfl

end Placement

namespace ObjectFile

variable {file : ObjectFile} {linked : LinkedObject}

theorem placement_of_link (links : file.link = .ok linked) :
    Placement 0 file.unit.sections linked.sections linked.image := by
  rw [link] at links
  split at links
  · cases links
  · rename_i placed image outcome
    cases links
    exact placement_of_place outcome

theorem sectionRanges_of_link (filled : ∀ part ∈ file.unit.sections, part.Filled)
    (links : file.link = .ok linked) :
    linked.sectionRanges = linked.sections.map Section.range := by
  have placement := placement_of_link links
  rw [LinkedObject.sectionRanges, ← List.filterMap_eq_map]
  refine List.filterMap_congr fun place member => ?_
  rcases placement.of_mem member with ⟨part, among, moved⟩
  have same : place.fragments = part.fragments := moved ▸ rfl
  have length : place.assembledLength = place.assemble.length := by
    rw [((filled part among).beside same).assembledLength_eq, Section.length_assemble]
  have fits : place.assemble.length < Word.count 32 :=
    Nat.lt_of_le_of_lt (Nat.le_add_left _ _) (placement.stop_lt member)
  rw [placement.linkedAddress_eq member, Option.bind_some, length, if_pos fits]
  rfl

theorem increasing_of_link (filled : ∀ part ∈ file.unit.sections, part.Filled)
    (links : file.link = .ok linked) : linked.sectionRanges.Pairwise SectionRange.Before := by
  have placement := placement_of_link links
  rw [sectionRanges_of_link filled links, List.pairwise_map]
  exact placement.row.pairwise.imp_of_mem fun member _ behind =>
    Section.before_of_stop_le (placement.stop_lt member) behind

end ObjectFile

/-- The sections of a linked object are those of the object, one behind another in the
image, and the image holds nothing else. -/
structure LinkedObject.Arranged (linked : LinkedObject) (parts : List Section) : Prop where
  relocated : List.Forall₂ (fun part place => place = part.relocate place.base) parts
    linked.sections
  start : ∀ index part, linked.sections[index]? = some part →
    IsLeast {place | max part.alignment.toNat 1 ∣ place ∧
      Section.stopBefore 0 linked.sections index ≤ place} part.start
  length : linked.image.toList.length =
    Section.stopBefore 0 linked.sections linked.sections.length
  data : ∀ part ∈ linked.sections, linked.image.toList.extract part.start part.stop = part.assemble
  gaps : ∀ index < linked.image.toList.length,
    (∀ part ∈ linked.sections, ¬(part.start ≤ index ∧ index < part.stop)) →
    linked.image.toList[index]? = some 0
  ranges : linked.sectionRanges.map (fun range =>
      (range.part, range.start.toNat, range.stop.toNat)) =
    linked.sections.map fun part => (part, part.start, part.stop)
  increasing : linked.sectionRanges.Pairwise SectionRange.Before
  disjoint : linked.sectionRanges.Pairwise fun left right =>
    ∀ address, ¬(left.covers address ∧ right.covers address)

theorem Placement.extract_eq {position : Nat} {parts placed : List Section} {image : Image}
    (placement : Placement position parts placed image) {part : Section}
    (member : part ∈ placed) : image.toList.extract part.start part.stop = part.assemble := by
  have inside := placement.row.stop_le member
  have length : image.toList.length = image.length := by simp [Image.toList]
  refine List.ext_getElem? fun offset => ?_
  rw [List.extract_eq_take_drop, List.getElem?_take, List.getElem?_drop, Section.stop,
    Nat.add_sub_cancel_left]
  split
  · rename_i within
    have before : part.start + offset < part.stop := Nat.add_lt_add_left within _
    rw [Image.toList, List.getElem?_map, List.getElem?_range (Nat.lt_of_lt_of_le before inside)]
    rw [Option.map_some, placement.data part member _ (Nat.le_add_right _ _) before,
      Nat.add_sub_cancel_left, List.getElem?_eq_getElem within]
    rfl
  · rename_i past
    exact (List.getElem?_eq_none (Nat.not_lt.mp past)).symm

theorem ObjectFile.arranged_of_link {file : ObjectFile} {linked : LinkedObject}
    (filled : ∀ part ∈ file.unit.sections, part.Filled) (links : file.link = .ok linked) :
    linked.Arranged file.unit.sections := by
  have placement := placement_of_link links
  have ranges := sectionRanges_of_link filled links
  have length : linked.image.toList.length = linked.image.length := by simp [Image.toList]
  have increasing := increasing_of_link filled links
  refine ⟨placement.relocated, fun _ _ found => placement.row.isLeast_start found,
    length.trans placement.row.reach_eq, fun _ member => placement.extract_eq member, ?_, ?_,
    increasing, increasing.imp SectionRange.Before.disjoint⟩
  · intro index inside free
    have zero := placement.gaps index fun part member => by
      have outside := free part member
      omega
    rw [Image.toList, List.getElem?_map, List.getElem?_range (length ▸ inside), Option.map_some,
      zero]
  · rw [ranges, List.map_map]
    refine List.map_congr_left fun part member => ?_
    simp only [Function.comp_apply, Section.toNat_stop_range (placement.stop_lt member)]
    rfl

/-! ## Sections with room between them -/

def ObjectFile.ofSections (sections : List Section) : ObjectFile where
  module := ⟨0, [], 1, [], 0, false, 0, 0, 0, 0, none, [], [], [], []⟩
  unit := ⟨0, .ofNat sections.length, 0, 0, [], [], [], sections⟩
  imports := []
  warnings := []

/-- Data with a gap in it, a section without data, and data behind an odd alignment. -/
def spacedParts : List Section := [
  { index := 0, name := "P", alignment := 4, fragments := [⟨0x80, 0, [1, 2, 3]⟩, ⟨0x80, 6, [4]⟩] },
  { index := 1, name := "D", alignment := 0 },
  { index := 2, name := "C", alignment := 6, fragments := [⟨0x80, 1, [9]⟩] }]

def spacedLinked : LinkedObject where
  file := .ofSections (List.zipWith Section.relocate spacedParts [0, 7, 12])
  image := ⟨14, [⟨0, #[1, 2, 3]⟩, ⟨6, #[4]⟩, ⟨13, #[9]⟩]⟩

theorem spaced_arranged :
    (∀ part ∈ spacedParts, part.Filled) ∧
      (ObjectFile.ofSections spacedParts).link = .ok spacedLinked ∧
      spacedLinked.Arranged spacedParts := by
  have filled : ∀ part ∈ spacedParts, part.Filled := by
    intro part member
    apply Section.filled_of_isChain
    revert part
    decide
  have links : (ObjectFile.ofSections spacedParts).link = .ok spacedLinked := by decide
  exact ⟨filled, links, ObjectFile.arranged_of_link filled links⟩

end SuperHBench
