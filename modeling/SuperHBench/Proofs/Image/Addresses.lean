import SuperHBench.Proofs.Image.Placement

/-! # Addresses of records

Linking gives the address of its offset to every record of a section, and to nothing more than
once: an object that is linked already is refused, unless it has no sections. Exports are looked
up in the order of their sections, and behind the address of one lies the byte it was put on. -/

namespace SuperHBench

/-- The first in a row that has a property. -/
def IsFirst (property : α → Prop) (row : List α) (item : α) : Prop :=
  ∃ earlier later, row = earlier ++ item :: later ∧ property item ∧
    ∀ other ∈ earlier, ¬property other

theorem find?_eq_some_iff_isFirst {property : α → Prop} [DecidablePred property] {row : List α}
    {item : α} : row.find? (fun item => property item) = some item ↔ IsFirst property row item := by
  rw [List.find?_eq_some_iff_append, IsFirst]
  constructor
  · rintro ⟨has, earlier, later, same, lacking⟩
    refine ⟨earlier, later, same, of_decide_eq_true has, fun other member => ?_⟩
    simpa using lacking other member
  · rintro ⟨earlier, later, same, has, lacking⟩
    refine ⟨decide_eq_true has, earlier, later, same, fun other member => ?_⟩
    simpa using lacking other member

namespace Section

structure RecordsAt (part : Section) (base : UInt32) : Prop where
  relocations : ∀ relocation ∈ part.relocations,
    relocation.linkedAddress = some (base + relocation.address)
  longRelocations : ∀ relocation ∈ part.longRelocations,
    relocation.linkedAddress = some (base + relocation.address)
  shortRelocations : ∀ relocation ∈ part.shortRelocations,
    relocation.linkedAddress = some (base + relocation.address)
  exports : ∀ symbol ∈ part.exports, symbol.linkedAddress = some (base + symbol.offset)

theorem recordsAt_relocate (part : Section) (base : UInt32) :
    (part.relocate base).RecordsAt base := by
  constructor
  case relocations =>
    intro relocation member
    rcases List.mem_map.mp member with ⟨origin, -, rfl⟩
    rfl
  case longRelocations =>
    intro relocation member
    rcases List.mem_map.mp member with ⟨origin, -, rfl⟩
    rfl
  case shortRelocations =>
    intro relocation member
    rcases List.mem_map.mp member with ⟨origin, -, rfl⟩
    rfl
  case exports =>
    intro symbol member
    rcases List.mem_map.mp member with ⟨origin, -, rfl⟩
    rfl

end Section

namespace Placement

variable {position : Nat} {parts placed : List Section} {image : Image}

theorem recordsAt (placement : Placement position parts placed image) {part : Section}
    (member : part ∈ placed) : part.RecordsAt part.base := by
  rcases placement.of_mem member with ⟨origin, -, moved⟩
  have records := origin.recordsAt_relocate part.base
  rwa [← moved] at records

/-- Inside the data of a section nothing comes around at the end of the address space. -/
theorem toNat_base_add (placement : Placement position parts placed image) {part : Section}
    (member : part ∈ placed) {offset : UInt32} (inside : offset.toNat < part.assemble.length) :
    (part.base + offset).toNat = part.start + offset.toNat := by
  have fits := placement.stop_lt member
  rw [Section.stop] at fits
  rw [UInt32.toNat_add]
  exact Nat.mod_eq_of_lt (Nat.lt_trans (Nat.add_lt_add_left inside _) fits)

theorem getElem?_toList (placement : Placement position parts placed image) {part : Section}
    (member : part ∈ placed) {offset : Nat} (inside : offset < part.assemble.length) :
    image.toList[part.start + offset]? = part.assemble[offset]? := by
  have within : offset < part.stop - part.start := by
    rw [Section.stop]
    omega
  conv => rhs; rw [← placement.extract_eq member]
  rw [List.extract_eq_take_drop, List.getElem?_take, if_pos within, List.getElem?_drop]

end Placement

namespace ObjectFile

variable {file : ObjectFile} {linked : LinkedObject}

theorem link_of_nil (empty : file.unit.sections = []) : file.link = .ok ⟨file, ⟨0, []⟩⟩ := by
  have same : { file with unit := { file.unit with sections := [] } } = file := by
    rw [← empty]
  rw [link, empty, place, if_pos (by decide)]
  exact congrArg (fun file => Except.ok (LinkedObject.mk file ⟨0, []⟩)) same

theorem link_of_linkedAddress {part : Section} {rest : List Section} {base : UInt32}
    (sections : file.unit.sections = part :: rest) (placed : part.linkedAddress = some base) :
    file.link = .error (.alreadyLinked part.index base) := by
  rw [link, sections, place, placed]

theorem link_file_of_sections_nil (links : file.link = .ok linked)
    (empty : linked.sections = []) : linked.file.link = .ok linked := by
  have relocated := (placement_of_link links).relocated
  rw [empty, List.forall₂_nil_right_iff] at relocated
  rw [link_of_nil relocated] at links
  cases links
  exact link_of_nil relocated

end ObjectFile

namespace LinkedObject

variable {linked : LinkedObject}

theorem findExportAt?_eq_some_iff {address : UInt32} {symbol : ExportSymbol} :
    linked.file.unit.findExportAt? address = some symbol ↔
      IsFirst (·.linkedAddress = some address) linked.file.unit.exports symbol :=
  find?_eq_some_iff_isFirst

theorem exportAddress?_eq_some_iff {name : String} {address : UInt32} :
    linked.exportAddress? name = some address ↔
      ∃ symbol, IsFirst (·.name = name) linked.file.unit.exports symbol ∧
        symbol.linkedAddress = some address := by
  rw [exportAddress?, Option.bind_eq_some_iff]
  exact exists_congr fun symbol => and_congr_left' find?_eq_some_iff_isFirst

/-- Every record of the object has its address, and exports are found by theirs. -/
structure Addresses (linked : LinkedObject) (parts : List Section) : Prop where
  relocated : List.Forall₂ (fun part place => place = part.relocate place.base) parts
    linked.sections
  records : ∀ part ∈ linked.sections, part.linkedAddress = some part.base ∧
    part.RecordsAt part.base
  exportAddress : ∀ name address, linked.exportAddress? name = some address ↔
    ∃ symbol, IsFirst (·.name = name) (linked.sections.flatMap (·.exports)) symbol ∧
      symbol.linkedAddress = some address
  exported : ∀ name, linked.exportAddress? name = none ↔
    ∀ part ∈ linked.sections, ∀ symbol ∈ part.exports, symbol.name ≠ name
  exportAt : ∀ address symbol, linked.file.unit.findExportAt? address = some symbol ↔
    IsFirst (·.linkedAddress = some address) (linked.sections.flatMap (·.exports)) symbol
  data : ∀ part ∈ linked.sections, ∀ symbol ∈ part.exports,
    symbol.offset.toNat < part.assembledLength →
    ∃ address byte, symbol.linkedAddress = some address ∧
      part.assemble[symbol.offset.toNat]? = some byte ∧
      linked.image.toList[address.toNat]? = some byte
  again : ∀ first rest, linked.sections = first :: rest →
    linked.file.link = .error (.alreadyLinked first.index first.base)
  againEmpty : linked.sections = [] →
    ∃ other, linked.file.link = .ok other ∧ other.image = linked.image

theorem exportAddress?_eq_none_iff (addressed : ∀ symbol ∈ linked.file.unit.exports,
    symbol.linkedAddress.isSome) {name : String} :
    linked.exportAddress? name = none ↔
      ∀ symbol ∈ linked.file.unit.exports, symbol.name ≠ name := by
  rw [exportAddress?, Option.bind_eq_none_iff, ObjectUnit.findExport?]
  constructor
  · intro unaddressed symbol member named
    have found : (linked.file.unit.exports.find? (·.name = name)).isSome :=
      List.find?_isSome.mpr ⟨symbol, member, decide_eq_true named⟩
    rcases Option.isSome_iff_exists.mp found with ⟨first, isFirst⟩
    have addressed := addressed first (List.mem_of_find?_eq_some isFirst)
    rw [unaddressed first isFirst] at addressed
    cases addressed
  · intro unnamed symbol isFirst
    have named : symbol.name = name := by simpa using List.find?_some isFirst
    exact absurd named (unnamed symbol (List.mem_of_find?_eq_some isFirst))

end LinkedObject

/-- Linking addresses an object as a whole. The sections of any object that was read are filled
(`ObjectFile.filled_of_decode`). -/
theorem ObjectFile.addresses_of_link {file : ObjectFile} {linked : LinkedObject}
    (filled : ∀ part ∈ file.unit.sections, part.Filled) (links : file.link = .ok linked) :
    linked.Addresses file.unit.sections := by
  have placement := placement_of_link links
  constructor
  case relocated => exact placement.relocated
  case records =>
    intro part member
    exact ⟨placement.linkedAddress_eq member, placement.recordsAt member⟩
  case exportAddress =>
    intro name address
    exact LinkedObject.exportAddress?_eq_some_iff
  case exported =>
    intro name
    have addressed : ∀ symbol ∈ linked.file.unit.exports, symbol.linkedAddress.isSome := by
      intro symbol member
      rcases List.mem_flatMap.mp member with ⟨part, among, within⟩
      rw [(placement.recordsAt among).exports symbol within]
      rfl
    rw [LinkedObject.exportAddress?_eq_none_iff addressed]
    simp only [ObjectUnit.exports, List.mem_flatMap]
    exact ⟨fun unnamed part among symbol within => unnamed symbol ⟨part, among, within⟩,
      fun unnamed symbol ⟨part, among, within⟩ => unnamed part among symbol within⟩
  case exportAt =>
    intro address symbol
    exact LinkedObject.findExportAt?_eq_some_iff
  case data =>
    intro part member symbol within short
    rcases placement.of_mem member with ⟨origin, among, moved⟩
    have same : part.fragments = origin.fragments := moved ▸ rfl
    have inside : symbol.offset.toNat < part.assemble.length := by
      rw [((filled origin among).beside same).assembledLength_eq] at short
      rwa [Section.length_assemble]
    have address := placement.toNat_base_add member inside
    have byte := placement.getElem?_toList member inside
    rw [← address, List.getElem?_eq_getElem inside] at byte
    exact ⟨_, _, (placement.recordsAt member).exports symbol within,
      List.getElem?_eq_getElem inside, byte⟩
  case again =>
    intro first rest sections
    have placed := placement.linkedAddress_eq (sections ▸ List.mem_cons_self)
    exact link_of_linkedAddress sections placed
  case againEmpty =>
    intro empty
    exact ⟨linked, link_file_of_sections_nil links empty, rfl⟩

/-! ## Names and places that occur twice -/

/-- A name that is exported twice, a place that has two names, and an export behind the data. -/
def signpostParts : List Section := [
  { index := 0, name := "P", alignment := 4, fragments := [⟨0x80, 0, [1, 2, 3, 4, 5, 6]⟩],
    exports := [⟨"_left", 0, 0, 2, none⟩, ⟨"_end", 0, 0, 8, none⟩] },
  { index := 1, name := "D", alignment := 4, fragments := [⟨0x80, 0, [7, 8, 9, 10]⟩],
    longRelocations := [⟨0, 0, 2, none⟩]
    shortRelocations := [⟨1, 0, none⟩]
    exports := [⟨"_left", 1, 0, 1, none⟩, ⟨"_start", 1, 0, 0, none⟩] }]

def signpostLinked : LinkedObject where
  file := .ofSections (List.zipWith Section.relocate signpostParts [0, 8])
  image := ⟨12, [⟨0, #[1, 2, 3, 4, 5, 6]⟩, ⟨8, #[7, 8, 9, 10]⟩]⟩

theorem signpost_addresses :
    (∀ part ∈ signpostParts, part.Filled) ∧
      (ObjectFile.ofSections signpostParts).link = .ok signpostLinked ∧
      signpostLinked.Addresses signpostParts := by
  have filled : ∀ part ∈ signpostParts, part.Filled := by
    intro part member
    apply Section.filled_of_isChain
    revert part
    decide
  have links : (ObjectFile.ofSections signpostParts).link = .ok signpostLinked := by decide
  exact ⟨filled, links, ObjectFile.addresses_of_link filled links⟩

end SuperHBench
