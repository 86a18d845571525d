import SuperHBench.Proofs.Resolution.Slots

/-! # Names after resolution

Of several names for an address the last one stays in the table, and exports come last. A
binding that gives the address itself goes before the table. An imported symbol is either
among the slots without a value, or its slot has a value and that value a name. -/

namespace SuperHBench

/-! ## Symbols of exports -/

/-- The last of the symbols that are exported to an address is that of the last export there. -/
theorem ExportSymbol.findRev?_filterMap_symbol? (exports : List ExportSymbol) (address : UInt32) :
    (exports.filterMap ExportSymbol.symbol?).findRev? (·.address = address) =
      (exports.findRev? (·.linkedAddress = some address)).map fun symbol =>
        ⟨symbol.name, address⟩ := by
  induction exports with
  | nil => rfl
  | cons symbol rest induction =>
      rw [List.filterMap_cons, List.findRev?]
      cases found : symbol.linkedAddress with
      | none =>
          simp only [ExportSymbol.symbol?, found, Option.map_none, induction]
          cases rest.findRev? (·.linkedAddress = some address) with
          | none => simp
          | some last => simp
      | some place =>
          simp only [ExportSymbol.symbol?, found, Option.map_some, List.findRev?, induction]
          cases rest.findRev? (·.linkedAddress = some address) with
          | some last => simp
          | none =>
              by_cases here : place = address
              · subst here
                simp
              · simp [here]

/-! ## Imported symbols -/

namespace LinkedObject

variable {linked : LinkedObject} {bindings : List Binding}

theorem mem_patches_bound_iff {part : Section} {relocation : ExternalRelocation}
    {binding : Binding} :
    Patch.bound part relocation binding ∈ linked.patches bindings ↔
      part ∈ linked.sections ∧ relocation ∈ part.relocations ∧
        bindings.find? (·.name = relocation.name) = some binding := by
  simp only [patches, List.mem_append, List.mem_flatMap, Section.longPatches, List.mem_map,
    Section.shortPatches, Section.boundPatches, List.mem_filterMap, Option.map_eq_some_iff]
  constructor
  · rintro ((⟨_, -, _, -, same⟩ | ⟨_, -, _, -, same⟩) | ⟨_, among, _, record, _, found, same⟩)
    · cases same
    · cases same
    · cases same
      exact ⟨among, record, found⟩
  · rintro ⟨among, record, found⟩
    exact .inr ⟨part, among, relocation, record, binding, found, rfl⟩

theorem mem_unboundSlots_iff {slot : UnresolvedSlot} :
    slot ∈ linked.unboundSlots bindings ↔
      ∃ part ∈ linked.sections, ∃ relocation ∈ part.relocations,
        bindings.find? (·.name = relocation.name) = none ∧
          slot = ⟨relocation.name, part.base + relocation.address⟩ := by
  simp only [unboundSlots, Section.unboundSlots, List.mem_flatMap, List.mem_map, List.mem_filter,
    List.find?_eq_none, List.all_eq_true, decide_eq_true_eq, and_assoc]
  constructor
  · rintro ⟨part, among, relocation, record, unbound, rfl⟩
    exact ⟨part, among, relocation, record, unbound, rfl⟩
  · rintro ⟨part, among, relocation, record, unbound, rfl⟩
    exact ⟨part, among, relocation, record, unbound, rfl⟩

end LinkedObject

def SlotWrite.Fills (write : SlotWrite) (part : Section) (relocation : ExternalRelocation) : Prop :=
  ∃ binding, write.patch = .bound part relocation binding

theorem SlotWrite.Fills.symbol?_eq {write : SlotWrite} {part : Section}
    {relocation : ExternalRelocation} (fills : write.Fills part relocation) :
    write.symbol? = some ⟨relocation.name, write.value⟩ := by
  rcases fills with ⟨binding, same⟩
  rw [symbol?, same]

/-! ## Resolution -/

/-- What resolution found out about names, from the values that slots got. -/
structure LinkedObject.Names (linked : LinkedObject) (bindings : List Binding)
    (writes : List SlotWrite) (resolution : Resolution) : Prop where
  unresolved : resolution.unresolved = linked.unboundSlots bindings
  symbols : ∀ address, (resolution.symbols.at? address).map (·.name) =
    ((linked.file.unit.exports.findRev? (·.linkedAddress = some address)).map (·.name)).or
      (((writes.filterMap SlotWrite.symbol?).findRev? (·.address = address)).map (·.name))
  names : ∀ address, resolution.nameAt? address =
    ((bindings.find? (·.address = address)).map (·.name)).or
      ((resolution.symbols.at? address).map (·.name))
  filled : ∀ part ∈ linked.sections, ∀ relocation ∈ part.relocations,
    (∃ write ∈ writes, write.Fills part relocation) ↔
      ⟨relocation.name, part.base + relocation.address⟩ ∉ resolution.unresolved
  named : ∀ write ∈ writes, ∀ part relocation, write.Fills part relocation →
    (resolution.symbols.at? write.value).isSome

namespace LinkedObject

variable {linked : LinkedObject} {bindings : List Binding}

theorem at?_conclude (writes : List SlotWrite) (address : UInt32) :
    (linked.conclude bindings writes).symbols.at? address =
      ((linked.file.unit.exports.findRev? (·.linkedAddress = some address)).map fun symbol =>
        ⟨symbol.name, address⟩).or
        ((writes.filterMap SlotWrite.symbol?).findRev? (·.address = address)) := by
  simp only [conclude, Resolution.extend, SymbolTable.at?_addAll, SymbolTable.at?_empty,
    Option.or_none, ExportSymbol.findRev?_filterMap_symbol?]

theorem isSome_at?_conclude {writes : List SlotWrite} {write : SlotWrite} {part : Section}
    {relocation : ExternalRelocation} (member : write ∈ writes)
    (fills : write.Fills part relocation) :
    ((linked.conclude bindings writes).symbols.at? write.value).isSome := by
  have named : ⟨relocation.name, write.value⟩ ∈ writes.filterMap SlotWrite.symbol? :=
    List.mem_filterMap.mpr ⟨write, member, fills.symbol?_eq⟩
  rw [at?_conclude, Option.isSome_or, Bool.or_eq_true]
  right
  rw [List.findRev?_eq_find?_reverse, List.find?_isSome]
  exact ⟨_, List.mem_reverse.mpr named, decide_eq_true rfl⟩

theorem exists_fills_iff {writes : List SlotWrite}
    (all : writes.map (·.patch) = linked.patches bindings) {part : Section}
    {relocation : ExternalRelocation} (among : part ∈ linked.sections)
    (record : relocation ∈ part.relocations) :
    (∃ write ∈ writes, write.Fills part relocation) ↔
      ⟨relocation.name, part.base + relocation.address⟩ ∉ linked.unboundSlots bindings := by
  rw [mem_unboundSlots_iff]
  constructor
  · -- A slot with the same name would be one without a binding.
    rintro ⟨write, member, binding, same⟩ ⟨_, -, other, -, unbound, slot⟩
    have patched : .bound part relocation binding ∈ linked.patches bindings :=
      same ▸ all ▸ List.mem_map_of_mem member
    have bound := (mem_patches_bound_iff.mp patched).2.2
    rw [UnresolvedSlot.mk.injEq] at slot
    rw [slot.1, unbound] at bound
    cases bound
  · intro bound
    cases found : bindings.find? (·.name = relocation.name) with
    | none => exact absurd ⟨part, among, relocation, record, found, rfl⟩ bound
    | some binding =>
        have patched := mem_patches_bound_iff.mpr ⟨among, record, found⟩
        rw [← all, List.mem_map] at patched
        rcases patched with ⟨write, member, same⟩
        exact ⟨write, member, binding, same⟩

theorem names_of_resolve {file : ObjectFile} {memory after : Memory} {resolution : Resolution}
    (links : file.link = .ok linked)
    (resolves : (linked.resolve bindings).run memory = .ok resolution after) :
    ∃ writes, writes.map (·.patch) = linked.patches bindings ∧
      Carried linked.sections memory writes after ∧ linked.Names bindings writes resolution := by
  rcases (run_resolve_eq_ok_iff (addressed_of_link links)).mp resolves with
    ⟨writes, all, carried, rfl⟩
  have unresolved :
      (linked.conclude bindings writes).unresolved = linked.unboundSlots bindings := by
    simp [conclude, Resolution.extend]
  refine ⟨writes, all, carried, unresolved, ?_, fun _ => rfl, ?_, ?_⟩
  · intro address
    rw [at?_conclude, Option.map_or, Option.map_map]
    rfl
  · intro part among relocation record
    rw [unresolved]
    exact exists_fills_iff all among record
  · intro write member part relocation fills
    exact isSome_at?_conclude member fills

end LinkedObject

theorem table_names : ∃ resolution after writes,
    (tableLinked.resolve tableBindings).run tableMemory = .ok resolution after ∧
      writes.map (·.patch) = tableLinked.patches tableBindings ∧
      Carried tableLinked.sections tableMemory writes after ∧
      tableLinked.Names tableBindings writes resolution := by
  rcases table_resolves with ⟨resolution, after, resolves⟩
  rcases LinkedObject.names_of_resolve link_table resolves with ⟨writes, all, carried, names⟩
  exact ⟨resolution, after, writes, resolves, all, carried, names⟩

end SuperHBench
