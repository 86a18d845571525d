import SuperHBench.Object.Section

/-! # Object files

An object file holds one module with one unit. The unit holds the sections. -/

namespace SuperHBench

inductive EntryPoint where
  | relative (unit sectionIndex : UInt16)
  | absolute (address : UInt32)
deriving DecidableEq, Repr

structure ModuleHeader where
  kind : UInt8
  buildDate : List UInt8
  unitCount : UInt16
  version : List UInt8
  addressUpdate : UInt8
  segmented : Bool
  addressFieldLength : UInt8
  spaceWithinSegment : UInt8
  segmentSize : UInt8
  segmentShift : UInt8
  entry : Option EntryPoint
  operatingSystem : List UInt8
  system : List UInt8
  name : List UInt8
  cpu : List UInt8
deriving DecidableEq, Repr

def ModuleHeader.absoluteKind : UInt8 :=
  0

structure ObjectUnit where
  format : UInt8
  sectionCount : UInt16
  externalReferences : UInt16
  externalDefinitions : UInt16
  name : List UInt8
  toolName : List UInt8
  toolDate : List UInt8
  sections : List Section := []
deriving DecidableEq, Repr

structure ImportSymbol where
  name : String
  kind : UInt8
deriving DecidableEq, Repr

structure ObjectFile where
  module : ModuleHeader
  unit : ObjectUnit
  imports : List ImportSymbol
  warnings : List FormatWarning
deriving DecidableEq, Repr

namespace ObjectUnit

def exports (unit : ObjectUnit) : List ExportSymbol :=
  unit.sections.flatMap (·.exports)

def relocations (unit : ObjectUnit) : List ExternalRelocation :=
  unit.sections.flatMap (·.relocations)

def findExport? (unit : ObjectUnit) (name : String) : Option ExportSymbol :=
  unit.exports.find? (·.name = name)

def findExportAt? (unit : ObjectUnit) (address : UInt32) : Option ExportSymbol :=
  unit.exports.find? (·.linkedAddress = some address)

end ObjectUnit

end SuperHBench
