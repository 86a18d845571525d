import SuperHBench.CommandLine.Arguments
import SuperHBench.CommandLine.Report
import SuperHBench.Object.Decoder

/-! # The program

A command names an object file. Without an entry the object is summarised; with one
the function of that name runs, and the lines say how it went. -/

namespace SuperHBench.CommandLine

/-! ## Object files -/

inductive ReadError where
  | notFound
  | denied
  | notDirectory
  | isDirectory
  | nameTooLong
  | unusableName
  | other (reason : String)
deriving DecidableEq, Repr

def ReadError.message : ReadError → String
  | .notFound => "No such file or directory (os error 2)"
  | .denied => "Permission denied (os error 13)"
  | .notDirectory => "Not a directory (os error 20)"
  | .isDirectory => "Is a directory (os error 21)"
  | .nameTooLong => "File name too long (os error 36)"
  | .unusableName => "file name contained an unexpected NUL byte"
  | .other reason => reason

/-! ## Output -/

structure Output where
  lines : List String
  failure : Option String
deriving DecidableEq, Repr

def Output.text (output : Output) : String :=
  String.join (output.lines.map (· ++ "\n"))

def Output.failed (reason : String) : Output :=
  ⟨[], some reason⟩

/-- The message of a run that failed. The cause of an invalid definition is named
once more behind it. -/
def failureText (error : RunError) : String :=
  match error with
  | .definition cause => s!"{error.message}: {cause.message}"
  | _ => error.message

/-! ## Commands -/

namespace Options

/-- The scenario that the options describe. Integers are passed before
single-precision numbers, which only matters for those on the stack. -/
def scenario (options : Options) (entry : String) : Except RangeError Scenario := do
  let initializations ← options.initialValues.mapM fun initial =>
    Initialization.ofInt initial.bits initial.address initial.value
  return {
    entry
    initializations
    arguments := options.arguments.map .integer ++ options.floatArguments.map .float
    returns := (options.floatReturn.map .float).or (options.expectedReturn.map .integer)
    bindings := options.bindings
    randomizeMemory := options.randomizeMemory }

def runOptions (options : Options) : RunOptions where
  limit := if options.limitOrDefault = 0 then none else some options.limitOrDefault
  listing := options.listing

def run (options : Options) (linked : LinkedObject) (entry : String) (noise : Nat → UInt8) :
    Output :=
  match options.scenario entry with
  | .error error => .failed error.message
  | .ok scenario =>
      let outcome := scenario.execute linked options.runOptions noise
      let lines := outcome.events.filterMap (eventLine? options.listing)
      match outcome.result with
      | .error error => ⟨lines, some s!"{entry} failed: {failureText error}"⟩
      | .ok report =>
          let coverage :=
            if options.coverage then coverageLines linked report.coverage else []
          ⟨lines ++ [successLine entry report] ++ coverage, none⟩

end Options

def Command.perform (command : Command) (file : Except ReadError (List UInt8))
    (noise : Nat → UInt8) : Output :=
  match file with
  | .error reason => .failed s!"failed to read {command.object}: {reason.message}"
  | .ok bytes =>
      match ObjectFile.decode bytes with
      | .error error => .failed s!"failed to parse {command.object}: {error.message}"
      | .ok object =>
          match object.link with
          | .error error => .failed s!"failed to link: {error.message}"
          | .ok linked =>
              match command.options.entry with
              | none => ⟨summaryLines linked, none⟩
              | some entry => command.options.run linked entry noise

end SuperHBench.CommandLine
