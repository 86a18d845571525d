import SuperHBench.Image
import SuperHBench.Memory
import SuperHBench.Symbols

/-! # Resolution

The slots of a loaded image are patched once for every run. First come the slots
that point into other sections, then those of imported symbols, which get the
address that a binding gives to their name. Slots without a binding stay as they
are and are remembered. -/

namespace SuperHBench

structure Binding where
  name : String
  address : UInt32
deriving DecidableEq, Repr

inductive ResolveError where
  | missingEntry (name : String)
  | conflictingOffsets (name : String) (offset inImage : UInt32)
  | unknownSection (sectionIndex target : Nat)
  | unlinked (index : Nat)
  | memory (error : MemoryError)
deriving DecidableEq, Repr

open Text in
def ResolveError.message : ResolveError → String
  | .missingEntry name => s!"entry symbol {name} not found"
  | .conflictingOffsets name offset inImage =>
      s!"relocation {name} has both a built-in offset {hexNumber offset.toNat} " ++
        s!"and a code offset {hexNumber inImage.toNat}"
  | .unknownSection sectionIndex target =>
      s!"local relocation in section {sectionIndex} targets unknown section {target}"
  | .unlinked index => s!"section {index} has not been linked"
  | .memory error => error.message

/-- A slot that no binding names. To read it ends a run. -/
structure UnresolvedSlot where
  name : String
  address : UInt32
deriving DecidableEq, Repr

structure Resolution where
  symbols : SymbolTable
  unresolved : List UnresolvedSlot
  bindings : List Binding

namespace Resolution

def bindingAt? (resolution : Resolution) (address : UInt32) : Option String :=
  (resolution.bindings.find? (·.address = address)).map (·.name)

/-- The name of an address: that of a binding, else that of a symbol. -/
def nameAt? (resolution : Resolution) (address : UInt32) : Option String :=
  (resolution.bindingAt? address).or ((resolution.symbols.at? address).map (·.name))

def unresolvedAt? (resolution : Resolution) (address : UInt32) : Option UnresolvedSlot :=
  resolution.unresolved.find? (·.address = address)

def describe (resolution : Resolution) (address : UInt32) : String :=
  match resolution.nameAt? address with
  | some name => s!"{name}({Text.hexNumber address.toNat})"
  | none => Text.hexNumber address.toNat

def addSymbol (resolution : Resolution) (name : String) (address : UInt32) : Resolution :=
  { resolution with symbols := resolution.symbols.add name address }

def addUnresolved (resolution : Resolution) (name : String) (address : UInt32) : Resolution :=
  { resolution with unresolved := resolution.unresolved ++ [⟨name, address⟩] }

end Resolution

/-! ## Patching -/

/-- A step that patches memory and keeps what was patched when it fails. -/
abbrev Patching := EStateM ResolveError Memory

namespace Patching

def baseOf (part : Section) : Patching UInt32 :=
  match part.linkedAddress with
  | some base => pure base
  | none => throw (.unlinked part.index)

def targetBase (sections : List Section) (part : Section) (index : Nat) : Patching UInt32 :=
  match sections[index]? with
  | some target => baseOf target
  | none => throw (.unknownSection part.index index)

def readSlot (slot : UInt32) : Patching UInt32 := do
  match (← get).readLong slot with
  | .ok contents => return contents
  | .error error => throw (.memory error)

def writeSlot (slot contents : UInt32) : Patching PUnit :=
  modify (·.write slot (.long contents))

def patchLong (sections : List Section) (part : Section) : Patching PUnit := do
  let base ← baseOf part
  part.longRelocations.forM fun relocation => do
    let target ← targetBase sections part relocation.sectionIndex
    writeSlot (base + relocation.address) (target + relocation.target)

def patchShort (sections : List Section) (part : Section) : Patching PUnit := do
  let base ← baseOf part
  part.shortRelocations.forM fun relocation => do
    let slot := base + relocation.address
    let offset ← readSlot slot
    let target ← targetBase sections part relocation.sectionIndex
    writeSlot slot (target + offset)

/-- Patch the slot of one imported symbol. An offset may stand in the record or in
the slot, but not in both. -/
def patchExternal (base : UInt32) (resolution : Resolution) (relocation : ExternalRelocation) :
    Patching Resolution := do
  let slot := base + relocation.address
  match resolution.bindings.find? (·.name = relocation.name) with
  | none => return resolution.addUnresolved relocation.name slot
  | some binding =>
      let inImage ← readSlot slot
      if relocation.offset ≠ 0 ∧ inImage ≠ 0 then
        throw (.conflictingOffsets relocation.name relocation.offset inImage)
      let address := binding.address + relocation.offset + inImage
      writeSlot slot address
      return resolution.addSymbol relocation.name address

def patchExternals (resolution : Resolution) (part : Section) : Patching Resolution := do
  let base ← baseOf part
  part.relocations.foldlM (patchExternal base) resolution

/-- Name the address of an export. Exports come last and so have the last word. -/
def nameExport (part : Section) (resolution : Resolution) (symbol : ExportSymbol) :
    Patching Resolution :=
  match symbol.linkedAddress with
  | some address => return resolution.addSymbol symbol.name address
  | none => throw (.unlinked part.index)

def nameExports (resolution : Resolution) (part : Section) : Patching Resolution :=
  part.exports.foldlM (nameExport part) resolution

end Patching

open Patching in
def LinkedObject.resolve (linked : LinkedObject) (bindings : List Binding) :
    Patching Resolution := do
  let sections := linked.sections
  sections.forM (patchLong sections)
  sections.forM (patchShort sections)
  let resolution ← sections.foldlM patchExternals ⟨.empty, [], bindings⟩
  sections.foldlM nameExports resolution

end SuperHBench
