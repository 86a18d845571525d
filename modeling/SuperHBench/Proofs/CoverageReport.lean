import Mathlib.Algebra.Ring.Nat
import Mathlib.Data.List.Nodup
import SuperHBench.Proofs.CodeObject
import SuperHBench.Proofs.Coverage
import SuperHBench.Proofs.Object.Filling
import SuperHBench.Proofs.Object.Manuscript

/-! # Reports of a coverage

A report has one entry for every byte of the sections of an object. What is counted section by
section adds up to what is counted in the report, because no two sections have a byte in
common. -/

namespace SuperHBench

namespace SectionRange

variable {range : SectionRange} {address : UInt32}

theorem mem_addresses_iff : address ∈ range.addresses ↔ range.covers address = true := by
  simp only [addresses, size, covers, List.mem_map, List.mem_range'_1, Bool.and_eq_true,
    decide_eq_true_eq, UInt32.le_iff_toNat_le, UInt32.lt_iff_toNat_lt]
  constructor
  · rintro ⟨number, ⟨reached, before⟩, rfl⟩
    have bound := range.stop.toNat_lt
    have small : number < 2 ^ 32 := by omega
    rw [UInt32.toNat_ofNat_of_lt' small]
    omega
  · rintro ⟨reached, before⟩
    exact ⟨address.toNat, by omega, UInt32.ofNat_toNat⟩

theorem nodup_addresses (range : SectionRange) : range.addresses.Nodup := by
  have bound := range.stop.toNat_lt
  apply List.Nodup.map_on _ List.nodup_range'
  intro number within other alsoWithin same
  rw [size, List.mem_range'_1] at within alsoWithin
  have small : number < 2 ^ 32 := by omega
  have alsoSmall : other < 2 ^ 32 := by omega
  have equal := congrArg UInt32.toNat same
  rwa [UInt32.toNat_ofNat_of_lt' small, UInt32.toNat_ofNat_of_lt' alsoSmall] at equal

end SectionRange

namespace Coverage

variable {coverage : Coverage} {linked : LinkedObject}

/-! ## Counts of a section -/

theorem nodup_touched (coverage : Coverage) : coverage.touched.Nodup := by
  have distinct := coverage.bytes.nodup_keys
  rw [← Std.ExtTreeMap.map_fst_toList_eq_keys] at distinct
  exact distinct.sublist (List.filter_sublist.map Prod.fst)

theorem touchedIn_eq (coverage : Coverage) (range : SectionRange) :
    coverage.touchedIn range =
      range.addresses.countP fun address => (coverage.get address).any := by
  rw [touchedIn, touchedAddresses, List.countP_eq_length_filter]
  apply List.Perm.length_eq
  rw [List.perm_ext_iff_of_nodup (coverage.nodup_touched.filter _)
    (range.nodup_addresses.filter _)]
  intro address
  rw [List.mem_filter, List.mem_filter, mem_touched_iff, SectionRange.mem_addresses_iff, and_comm]

theorem sum_touchedIn (coverage : Coverage) (linked : LinkedObject) :
    (linked.sectionRanges.map coverage.touchedIn).sum =
      linked.sectionAddresses.countP fun address => (coverage.get address).any := by
  rw [LinkedObject.sectionAddresses, List.countP_flatMap]
  exact congrArg List.sum (List.map_congr_left fun range _ => coverage.touchedIn_eq range)

theorem touchedBytes_eq (coverage : Coverage) (linked : LinkedObject) :
    coverage.touchedBytes linked = (linked.sectionRanges.map coverage.touchedIn).sum := by
  rw [touchedBytes, List.sum, List.foldr_map]

theorem sectionBytes_eq (linked : LinkedObject) :
    sectionBytes linked = linked.sectionAddresses.length := by
  rw [LinkedObject.sectionAddresses, List.length_flatMap, sectionBytes, List.sum, List.foldr_map]
  simp only [SectionRange.length_addresses]

/-! ## Entries of a report -/

theorem distinct_entries (coverage : Coverage) (distinct : linked.sectionAddresses.Nodup) :
    (linked.sectionAddresses.map fun address => (address, coverage.get address)).Pairwise
      fun entry other => ¬compare entry.1 other.1 = .eq := by
  rw [List.pairwise_map]
  exact distinct.imp fun different same => different (Std.compare_eq_iff_eq.mp same)

theorem getElem?_report (coverage : Coverage) (distinct : linked.sectionAddresses.Nodup)
    {address : UInt32} (member : address ∈ linked.sectionAddresses) :
    (coverage.report linked)[address]? = some (coverage.get address) :=
  Std.ExtTreeMap.getElem?_ofList_of_mem (Std.compare_eq_iff_eq.mpr rfl)
    (coverage.distinct_entries distinct) (List.mem_map_of_mem member)

theorem mem_report_iff (coverage : Coverage) {address : UInt32} :
    address ∈ coverage.report linked ↔ address ∈ linked.sectionAddresses := by
  rw [report, Std.ExtTreeMap.mem_ofList, List.contains_iff_mem, List.map_map]
  simp

theorem size_report (coverage : Coverage) (distinct : linked.sectionAddresses.Nodup) :
    (coverage.report linked).size = linked.sectionAddresses.length := by
  rw [report, Std.ExtTreeMap.size_ofList (coverage.distinct_entries distinct), List.length_map]

theorem perm_toList_report (coverage : Coverage) (distinct : linked.sectionAddresses.Nodup) :
    (coverage.report linked).toList.Perm
      (linked.sectionAddresses.map fun address => (address, coverage.get address)) := by
  have keys := (coverage.report linked).nodup_keys
  rw [← Std.ExtTreeMap.map_fst_toList_eq_keys] at keys
  have entries : (linked.sectionAddresses.map fun address =>
      (address, coverage.get address)).Nodup :=
    distinct.map fun _ _ same => congrArg Prod.fst same
  rw [List.perm_ext_iff_of_nodup keys.of_map entries]
  rintro ⟨address, access⟩
  rw [Std.ExtTreeMap.mem_toList_iff_getElem?_eq_some, List.mem_map]
  constructor
  · intro found
    have member : address ∈ linked.sectionAddresses := by
      rw [← mem_report_iff coverage, Std.ExtTreeMap.mem_iff_isSome_getElem?, found]
      rfl
    rw [getElem?_report coverage distinct member, Option.some.injEq] at found
    exact ⟨address, member, by rw [found]⟩
  · rintro ⟨_, member, same⟩
    cases same
    exact getElem?_report coverage distinct member

def touchedEntries (coverage : Coverage) (linked : LinkedObject) : Nat :=
  (coverage.report linked).toList.countP fun entry => entry.2.any

theorem touchedEntries_eq (coverage : Coverage) (distinct : linked.sectionAddresses.Nodup) :
    coverage.touchedEntries linked =
      linked.sectionAddresses.countP fun address => (coverage.get address).any := by
  rw [touchedEntries, (coverage.perm_toList_report distinct).countP_eq, List.countP_map]
  rfl

end Coverage

/-! ## Bytes of linked objects -/

theorem Section.covers_range_iff {part : Section} (fits : part.stop < Word.count 32)
    {address : UInt32} :
    part.range.covers address = true ↔
      part.start ≤ address.toNat ∧ address.toNat < part.stop := by
  simp only [SectionRange.covers, Bool.and_eq_true, decide_eq_true_eq, UInt32.le_iff_toNat_le,
    UInt32.lt_iff_toNat_lt, toNat_stop_range fits]
  rfl

namespace ObjectFile

variable {file : ObjectFile} {linked : LinkedObject}

theorem nodup_sectionAddresses_of_link (filled : ∀ part ∈ file.unit.sections, part.Filled)
    (links : file.link = .ok linked) : linked.sectionAddresses.Nodup := by
  rw [LinkedObject.sectionAddresses, List.nodup_flatMap]
  refine ⟨fun range _ => range.nodup_addresses, ?_⟩
  apply (increasing_of_link filled links).imp
  intro range next before address here there
  rw [SectionRange.mem_addresses_iff] at here there
  exact before.disjoint address ⟨here, there⟩

theorem mem_sectionAddresses_iff_of_link (filled : ∀ part ∈ file.unit.sections, part.Filled)
    (links : file.link = .ok linked) {address : UInt32} :
    address ∈ linked.sectionAddresses ↔
      ∃ part ∈ linked.sections, part.start ≤ address.toNat ∧ address.toNat < part.stop := by
  have placement := placement_of_link links
  rw [LinkedObject.sectionAddresses, sectionRanges_of_link filled links, List.mem_flatMap]
  constructor
  · rintro ⟨_, among, within⟩
    rcases List.mem_map.mp among with ⟨part, member, rfl⟩
    rw [SectionRange.mem_addresses_iff, Section.covers_range_iff (placement.stop_lt member)]
      at within
    exact ⟨part, member, within⟩
  · rintro ⟨part, member, within⟩
    rw [← Section.covers_range_iff (placement.stop_lt member), ← SectionRange.mem_addresses_iff]
      at within
    exact ⟨part.range, List.mem_map_of_mem member, within⟩

theorem length_sectionAddresses_of_link (filled : ∀ part ∈ file.unit.sections, part.Filled)
    (links : file.link = .ok linked) :
    linked.sectionAddresses.length =
      (linked.sections.map fun part => part.assemble.length).sum := by
  have placement := placement_of_link links
  rw [LinkedObject.sectionAddresses, List.length_flatMap, sectionRanges_of_link filled links,
    List.map_map]
  apply congrArg List.sum
  apply List.map_congr_left
  intro part member
  rw [Function.comp_apply, SectionRange.length_addresses, SectionRange.size,
    Section.toNat_stop_range (placement.stop_lt member)]
  exact Nat.add_sub_cancel_left ..

end ObjectFile

/-! ## Sums -/

/-- What a report shows of an object, what is counted in its sections, and the part of the whole
that this is. -/
structure Coverage.AddsUp (coverage : Coverage) (linked : LinkedObject) : Prop where
  keys : ∀ address, address ∈ coverage.report linked ↔
    ∃ part ∈ linked.sections, part.start ≤ address.toNat ∧ address.toNat < part.stop
  entries : ∀ address ∈ coverage.report linked,
    (coverage.report linked)[address]? = some (coverage.get address)
  size : (coverage.report linked).size =
    (linked.sections.map fun part => part.assemble.length).sum
  ranges : linked.sectionRanges.map SectionRange.part = linked.sections
  counts : ∀ range ∈ linked.sectionRanges, coverage.touchedIn range =
    range.addresses.countP fun address =>
      ((coverage.report linked)[address]?).any ByteAccess.any
  sum : (linked.sectionRanges.map coverage.touchedIn).sum = coverage.touchedEntries linked
  ratio : coverage.ratio linked =
    if (coverage.report linked).size = 0 then .ofNat 0
    else .ofNat (coverage.touchedEntries linked) / .ofNat (coverage.report linked).size
  bounded : coverage.touchedEntries linked ≤ (coverage.report linked).size
  full : coverage.touchedEntries linked = (coverage.report linked).size ↔
    ∀ part ∈ linked.sections, ∀ address : UInt32,
      part.start ≤ address.toNat → address.toNat < part.stop → (coverage.get address).any = true

theorem ObjectFile.addsUp_of_link {bytes : List UInt8} {file : ObjectFile} {linked : LinkedObject}
    (decoded : decode bytes = .ok file) (links : file.link = .ok linked) (coverage : Coverage) :
    coverage.AddsUp linked := by
  have filled := filled_of_decode decoded
  have ranges := sectionRanges_of_link filled links
  have distinct := nodup_sectionAddresses_of_link filled links
  have size := coverage.size_report distinct
  have touched := coverage.touchedEntries_eq distinct
  constructor
  case keys =>
    intro address
    rw [coverage.mem_report_iff, mem_sectionAddresses_iff_of_link filled links]
  case entries =>
    intro address member
    exact coverage.getElem?_report distinct (coverage.mem_report_iff.mp member)
  case size => rw [size, length_sectionAddresses_of_link filled links]
  case ranges =>
    rw [ranges, List.map_map]
    exact List.map_id _
  case counts =>
    intro range among
    rw [coverage.touchedIn_eq]
    apply List.countP_congr
    intro address member
    have within : address ∈ linked.sectionAddresses :=
      List.mem_flatMap.mpr ⟨range, among, member⟩
    rw [coverage.getElem?_report distinct within, Option.any_some]
  case sum => rw [coverage.sum_touchedIn, touched]
  case ratio =>
    rw [Coverage.ratio, Coverage.touchedBytes_eq, coverage.sum_touchedIn, Coverage.sectionBytes_eq,
      size, touched]
  case bounded =>
    rw [size, touched]
    exact List.countP_le_length
  case full =>
    rw [size, touched, List.countP_eq_length]
    simp only [mem_sectionAddresses_iff_of_link filled links]
    exact
      ⟨fun all part member address reached before => all address ⟨part, member, reached, before⟩,
        fun all address ⟨part, member, reached, before⟩ => all part member address reached before⟩

/-- A read that starts at the last byte of a section, goes over the bytes in front of the next one
and ends in that. -/
def readAcross : Coverage :=
  Coverage.empty.logRead 4 6

theorem readAcross_addsUp :
    ∃ file linked, ObjectFile.decode (Manuscript.specimen.bytes (List.replicate 28 0)) = .ok file ∧
      file.link = .ok linked ∧ linked.sectionRanges.map readAcross.touchedIn = [1, 2] ∧
      readAcross.AddsUp linked := by
  have accepted : (ObjectFile.decode (Manuscript.specimen.bytes (List.replicate 28 0))).toOption.any
      (fun file => file.link.toOption.any fun linked =>
        linked.sectionRanges.map readAcross.touchedIn = [1, 2]) = true := by
    decide +kernel
  rcases exists_ok_of_any accepted with ⟨file, decoded, linkable⟩
  rcases exists_ok_of_any linkable with ⟨linked, links, counts⟩
  exact ⟨file, linked, decoded, links, of_decide_eq_true counts,
    ObjectFile.addsUp_of_link decoded links readAcross⟩

end SuperHBench
