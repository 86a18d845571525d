import SuperHBench.Session.Run

/-! # Reports

The lines that are printed about an object and about a run. -/

namespace SuperHBench.CommandLine

open Text (address hexNumber padRight)

/-! ## Objects -/

def rangeText (range : SectionRange) : String :=
  s!"{address range.start}..{address range.stop}"

def sectionLine (range : SectionRange) : String :=
  let part := range.part
  s!"  [{part.index}] {padRight 12 part.name} {part.kind.name} {rangeText range} " ++
    s!"align {part.alignment.toNat}"

def exportLine (symbol : ExportSymbol) : String :=
  s!"  {address (symbol.linkedAddress.getD symbol.offset)} {symbol.name}"

def relocationLines (part : Section) : List String :=
  let slot (offset : UInt32) : String := address (part.linkedAddress.getD 0 + offset)
  part.relocations.map (fun relocation =>
    let offset :=
      if relocation.offset = 0 then "" else s!"+{hexNumber relocation.offset.toNat}"
    s!"  {slot relocation.address} -> {relocation.name}{offset}") ++
  part.longRelocations.map (fun relocation =>
    s!"  {slot relocation.address} -> section {relocation.sectionIndex}" ++
      s!"+{hexNumber relocation.target.toNat}") ++
  part.shortRelocations.map fun relocation =>
    s!"  {slot relocation.address} -> section {relocation.sectionIndex} (offset in place)"

def summaryLines (linked : LinkedObject) : List String :=
  let file := linked.file
  let warnings := file.warnings.map fun warning => s!"  {warning.message}"
  [s!"module {Text.decode file.module.name} ({Text.decode file.module.cpu}), " ++
    s!"unit {Text.decode file.unit.name}"] ++
  "sections:" :: linked.sectionRanges.map sectionLine ++
  "exports:" :: file.unit.exports.map exportLine ++
  "imports:" :: file.imports.map (fun symbol => s!"  {symbol.name}") ++
  "relocations:" :: linked.sections.flatMap relocationLines ++
  (if warnings.isEmpty then [] else "warnings:" :: warnings)

/-! ## Runs -/

/-- What is printed when something happens. Remarks belong to a listing. -/
def eventLine? (listing : Bool) : Event → Option String
  | .instruction line => if listing then some line.text else none
  | .fulfilled text => some s!"  fulfilled: {text}"
  | .info text => if listing then some s!"  {text}" else none
  | .callback _ _ => none

def successLine (entry : String) (report : RunReport) : String :=
  s!"ok {entry} ({report.fulfilled} expectation(s), {report.instructions} instruction(s))"

def coverageLine (coverage : Coverage) (range : SectionRange) : String :=
  s!"  {padRight 12 range.part.name} {rangeText range} " ++
    s!"{coverage.touchedIn range}/{range.size} byte(s)"

def coverageLines (linked : LinkedObject) (coverage : Coverage) : List String :=
  let percentage := coverage.ratio linked * .ofNat 100
  linked.sectionRanges.map (coverageLine coverage) ++
    [s!"coverage: {Text.fixed 1 percentage}%"]

end SuperHBench.CommandLine
