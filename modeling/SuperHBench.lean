import SuperHBench.CallingConvention
import SuperHBench.CommandLine.Arguments
import SuperHBench.CommandLine.Number
import SuperHBench.CommandLine.Program
import SuperHBench.CommandLine.Report
import SuperHBench.CommandLine.Value
import SuperHBench.Coverage
import SuperHBench.Expectation
import SuperHBench.Image
import SuperHBench.Machine.Encoding
import SuperHBench.Machine.Execution
import SuperHBench.Machine.Instruction
import SuperHBench.Machine.Listing
import SuperHBench.Machine.Operation
import SuperHBench.Machine.SinglePrecision
import SuperHBench.Machine.State
import SuperHBench.Main
import SuperHBench.Memory
import SuperHBench.Object.Chunk
import SuperHBench.Object.Cursor
import SuperHBench.Object.Decoder
import SuperHBench.Object.Error
import SuperHBench.Object.File
import SuperHBench.Object.Section
import SuperHBench.Proofs.Session.Judged
import SuperHBench.Proofs.Session.Judging
import SuperHBench.Proofs.Session.Passing
import SuperHBench.Proofs.Session.Turns
import SuperHBench.Proofs.Strings
import SuperHBench.Resolution
import SuperHBench.Scenario
import SuperHBench.Session.Accesses
import SuperHBench.Session.Calls
import SuperHBench.Session.Error
import SuperHBench.Session.Run
import SuperHBench.Session.State
import SuperHBench.Symbols
import SuperHBench.Text.Characters
import SuperHBench.Text.Decimal
import SuperHBench.Text.Digits
import SuperHBench.Text.Quoted
import SuperHBench.Text.Utf8
import SuperHBench.Word
import SuperHBench.Proofs.Session.Consumption
import SuperHBench.Proofs.CodeObject
import SuperHBench.Proofs.Session.CallDepth
import SuperHBench.Proofs.Session.AddressStubs
import SuperHBench.Proofs.Session.UnresolvedSlots
import SuperHBench.Proofs.MemoryContents
import SuperHBench.Proofs.Machine.Steps
import SuperHBench.Proofs.Machine.Reports
import SuperHBench.Proofs.Text.RoundTrip
import SuperHBench.Proofs.Object.Reading
import SuperHBench.Proofs.Object.Records
import SuperHBench.Proofs.Object.Windows
import SuperHBench.Proofs.Object.Handlers
import SuperHBench.Proofs.Object.Chunks
import SuperHBench.Proofs.Object.Manuscript
import SuperHBench.Proofs.Object.Cutting
import SuperHBench.Proofs.Object.Invariants
import SuperHBench.Proofs.Object.Deliveries
import SuperHBench.Proofs.Object.Headers
import SuperHBench.Proofs.Object.Termination
import SuperHBench.Proofs.Object.Relocations
import SuperHBench.Proofs.Object.WarnedRelocations
import SuperHBench.Proofs.Image.Placement
import SuperHBench.Proofs.Resolution.Patches
import SuperHBench.Proofs.Resolution.Slots
import SuperHBench.Proofs.Resolution.Failures
import SuperHBench.Proofs.Resolution.Names
import SuperHBench.Proofs.Object.Filling
import SuperHBench.Proofs.Object.Collecting
import SuperHBench.Proofs.Object.WellFormed
import SuperHBench.Proofs.Object.Selections
import SuperHBench.Proofs.Machine.Faults
import SuperHBench.Proofs.Session.Invariants
import SuperHBench.Proofs.Coverage
import SuperHBench.Proofs.CoverageMerging
import SuperHBench.Proofs.CallingConvention
import SuperHBench.Proofs.Session.Arguments
import SuperHBench.Proofs.Session.EarlyStop
import SuperHBench.Proofs.Session.Begun
import SuperHBench.Proofs.Session.Limit
import SuperHBench.Proofs.Machine.Footprints
import SuperHBench.Proofs.Session.Overlooking
import SuperHBench.Proofs.Session.Independence
import SuperHBench.Proofs.Machine.Lines
import SuperHBench.Proofs.Machine.DelayedBranches
import SuperHBench.Proofs.Session.Latches
import SuperHBench.Proofs.Session.WrittenBytes
import SuperHBench.Proofs.Session.Listings
import SuperHBench.Proofs.Object.Fragments
import SuperHBench.Proofs.Object.InStep
import SuperHBench.Proofs.Object.Suffixes
import SuperHBench.Proofs.Object.RelocationTexts
import SuperHBench.Proofs.Object.RelocationRows
import SuperHBench.Proofs.Session.ExpectedStrings
import SuperHBench.Proofs.Image.Addresses
import SuperHBench.Proofs.Session.StubbedCalls
import SuperHBench.Proofs.Session.Retelling
import SuperHBench.Proofs.Resolution.Rebinding
import SuperHBench.Proofs.Session.Rearranging
import SuperHBench.Proofs.SlotRows
import SuperHBench.Proofs.CoverageReport
import SuperHBench.Proofs.Session.Routines
import SuperHBench.Proofs.Machine.CarryChains
import SuperHBench.Proofs.WordReadings
import SuperHBench.Proofs.Machine.RegisterShifts
import SuperHBench.Proofs.MemoryHistory
import SuperHBench.Proofs.Session.ExpectedValues
import SuperHBench.Proofs.Machine.Frames
import SuperHBench.Proofs.CommandLine.Digits
import SuperHBench.Proofs.CommandLine.Integers
import SuperHBench.Proofs.Symbols
