import SuperHBench.Memory
import SuperHBench.Object.File

/-! # Images

Linking places the sections of an object one after another in a flat image, each
at the next multiple of its alignment, and gives every record of a section its
address in the image. Linking happens once for an object.

Sections may lie far apart. An image therefore holds its length and those stretches
of bytes that come from the object. The view of an image is `byte`: outside the
stretches there are zeros. -/

namespace SuperHBench

inductive LinkError where
  | alreadyLinked (index : Nat) (address : UInt32)
  | imageTooLarge
deriving DecidableEq, Repr

def LinkError.message : LinkError → String
  | .alreadyLinked index address =>
      s!"section {index} is already linked at {Text.hexNumber address.toNat}"
  | .imageTooLarge => "linked image exceeds the 32-bit address space"

/-! ## Stretches -/

structure Stretch where
  start : Nat
  bytes : Array UInt8
deriving DecidableEq, Repr

namespace Stretch

/-- The byte that the first stretch around an index has there. -/
def byteIn (index : Nat) : List Stretch → UInt8
  | [] => 0
  | stretch :: rest =>
      if stretch.start ≤ index then
        match stretch.bytes[index - stretch.start]? with
        | some byte => byte
        | none => byteIn index rest
      else
        byteIn index rest

def ofFragments (base position : Nat) : List Fragment → List Stretch
  | [] => []
  | fragment :: rest =>
      let start := max position fragment.address.toNat
      ⟨base + start, fragment.data.toArray⟩ ::
        ofFragments base (start + fragment.data.length) rest

theorem byteIn_ofFragments_of_lt (base : Nat) {position index : Nat}
    (fragments : List Fragment) (before : index < position) :
    byteIn (base + index) (ofFragments base position fragments) = 0 := by
  induction fragments generalizing position with
  | nil => rfl
  | cons fragment rest induction =>
      rw [ofFragments, byteIn, if_neg (by simp only; omega), induction (by omega)]

theorem byteIn_ofFragments (base : Nat) {position index : Nat} (fragments : List Fragment)
    (reached : position ≤ index) :
    byteIn (base + index) (ofFragments base position fragments) =
      ((Section.layOut position fragments)[index - position]?).getD 0 := by
  induction fragments generalizing position with
  | nil => rfl
  | cons fragment rest induction =>
      rw [ofFragments, byteIn, Section.layOut]
      generalize startEq : max position fragment.address.toNat = start
      rcases Nat.lt_or_ge index start with before | inside
      · rw [if_neg (by simp only; omega), byteIn_ofFragments_of_lt _ _ (by omega),
          List.append_assoc, List.getElem?_append_left (by simp; omega),
          List.getElem?_replicate_of_lt (by omega)]
        rfl
      · rw [if_pos (by simp only; omega), List.append_assoc,
          List.getElem?_append_right (by simp; omega)]
        simp only [List.length_replicate, List.getElem?_toArray]
        rw [show base + index - (base + start) = index - start by omega,
          show index - position - (start - position) = index - start by omega]
        rcases Nat.lt_or_ge (index - start) fragment.data.length with within | past
        · rw [List.getElem?_append_left within, List.getElem?_eq_getElem within]
          rfl
        · rw [List.getElem?_append_right past, List.getElem?_eq_none past]
          simp only
          rw [induction (by omega)]
          congr 2
          omega

end Stretch

/-! ## Images -/

structure Image where
  length : Nat
  stretches : List Stretch
deriving DecidableEq, Repr

namespace Image

def byte (image : Image) (index : Nat) : UInt8 :=
  Stretch.byteIn index image.stretches

def toList (image : Image) : List UInt8 :=
  (List.range image.length).map image.byte

def covering (image : Image) (background : Nat → UInt8) (index : Nat) : UInt8 :=
  if index < image.length then image.byte index else background index

def load (image : Image) (size : Nat) (background : Nat → UInt8) : Memory :=
  .filled size (image.covering background)

theorem byte_load (image : Image) (size : Nat) (background : Nat → UInt8) (index : Nat) :
    (image.load size background).byte index =
      ((Memory.filled size background).writeBytes 0 image.toList).byte index := by
  rcases Nat.lt_or_ge index size with inside | past
  · rw [Memory.writeBytes, Memory.byte_writeFrom _ _ _ _ inside]
    simp only [UInt32.toNat_zero, Nat.zero_le, if_true, Nat.sub_zero, toList, List.getElem?_map]
    rcases Nat.lt_or_ge index image.length with covered | free
    · rw [List.getElem?_range covered]
      simp [load, Memory.filled, Memory.byte, covering, inside, covered]
    · rw [List.getElem?_eq_none (by simpa using free)]
      simp [load, Memory.filled, Memory.byte, covering, inside, Nat.not_lt.mpr free]
  · rw [Memory.byte_of_size_le _ (by simpa [load, Memory.filled] using past),
      Memory.byte_of_size_le _ (by simpa [Memory.filled] using past)]

end Image

structure LinkedObject where
  file : ObjectFile
  image : Image
deriving DecidableEq, Repr

/-! ## Placement -/

/-- The next multiple of an alignment. No alignment is the same as one byte. -/
def alignUp (position alignment : Nat) : Nat :=
  let alignment := max alignment 1
  let excess := position % alignment
  if excess = 0 then position else position + (alignment - excess)

theorem le_alignUp (position alignment : Nat) : position ≤ alignUp position alignment := by
  simp only [alignUp]
  split <;> omega

theorem dvd_alignUp (position alignment : Nat) :
    max alignment 1 ∣ alignUp position alignment := by
  simp only [alignUp]
  have positive : 0 < max alignment 1 := by omega
  generalize max alignment 1 = unit at positive
  split
  · exact Nat.dvd_of_mod_eq_zero (by assumption)
  · have small := Nat.mod_lt position positive
    have parts := Nat.div_add_mod position unit
    refine ⟨position / unit + 1, ?_⟩
    rw [Nat.mul_add]
    omega

theorem alignUp_le_of_dvd (position alignment multiple : Nat)
    (divides : max alignment 1 ∣ multiple) (above : position ≤ multiple) :
    alignUp position alignment ≤ multiple := by
  simp only [alignUp]
  have positive : 0 < max alignment 1 := by omega
  generalize max alignment 1 = unit at positive divides
  split
  · exact above
  · rename_i uneven
    obtain ⟨factor, rfl⟩ := divides
    have small := Nat.mod_lt position positive
    have parts := Nat.div_add_mod position unit
    have larger : position / unit < factor := by
      rw [Nat.div_lt_iff_lt_mul positive]
      rcases Nat.lt_or_eq_of_le above with less | equal
      · rwa [Nat.mul_comm]
      · exact absurd (equal ▸ Nat.mul_mod_right unit factor) uneven
    have := Nat.mul_le_mul_left unit (Nat.succ_le_of_lt larger)
    rw [Nat.mul_succ] at this
    omega

/-- Place sections behind an image of `position` bytes. The results are the placed
sections and the image with what they add to it. -/
def place (position : Nat) : List Section → Except LinkError (List Section × Image)
  | [] => if position < Word.count 32 then .ok ([], ⟨position, []⟩) else .error .imageTooLarge
  | part :: rest =>
      match part.linkedAddress with
      | some address => .error (.alreadyLinked part.index address)
      | none =>
          let base := alignUp position part.alignment.toNat
          if base < Word.count 32 then
            match place (base + part.dataLength) rest with
            | .error error => .error error
            | .ok (sections, image) =>
                let stretches := Stretch.ofFragments base 0 part.fragments
                .ok (part.relocate (UInt32.ofNat base) :: sections,
                  { image with stretches := stretches ++ image.stretches })
          else
            .error .imageTooLarge

def ObjectFile.link (file : ObjectFile) : Except LinkError LinkedObject :=
  match place 0 file.unit.sections with
  | .error error => .error error
  | .ok (sections, image) => .ok ⟨{ file with unit := { file.unit with sections } }, image⟩

/-! ## Linked objects -/

structure SectionRange where
  part : Section
  start : UInt32
  stop : UInt32
deriving DecidableEq, Repr

namespace SectionRange

def size (range : SectionRange) : Nat :=
  range.stop.toNat - range.start.toNat

def addresses (range : SectionRange) : List UInt32 :=
  (List.range' range.start.toNat range.size).map UInt32.ofNat

def covers (range : SectionRange) (address : UInt32) : Bool :=
  range.start ≤ address && address < range.stop

@[simp] theorem length_addresses (range : SectionRange) :
    range.addresses.length = range.size := by
  simp [addresses]

end SectionRange

namespace LinkedObject

def sections (linked : LinkedObject) : List Section :=
  linked.file.unit.sections

def exportAddress? (linked : LinkedObject) (name : String) : Option UInt32 :=
  (linked.file.unit.findExport? name).bind (·.linkedAddress)

def sectionRanges (linked : LinkedObject) : List SectionRange :=
  linked.sections.filterMap fun part =>
    part.linkedAddress.bind fun start =>
      if part.assembledLength < Word.count 32 then
        some ⟨part, start, start + UInt32.ofNat part.assembledLength⟩
      else
        none

def sectionAddresses (linked : LinkedObject) : List UInt32 :=
  linked.sectionRanges.flatMap SectionRange.addresses

end LinkedObject

example : alignUp 5 4 = 8 := by decide
example : alignUp 5 0 = 5 := by decide

end SuperHBench
