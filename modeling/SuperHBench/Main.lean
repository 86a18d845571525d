import SuperHBench.CommandLine.Program

/-! # Command line

Runs a function of an object file and prints how it went. -/

namespace SuperHBench.CommandLine

def usage : String :=
  "Usage: superhbench [OPTIONS] OBJECT\n\n" ++
    "Run SuperH object code against expectations.\n\n" ++
    "  -e, --entry NAME          function to run; without it the object is summarised\n" ++
    "      --arg INT             integer argument\n" ++
    "      --float-arg F         single-precision argument\n" ++
    "      --return INT          expected integer result\n" ++
    "      --float-return F      expected single-precision result\n" ++
    "  -b, --bind NAME=ADDR      address of an imported symbol\n" ++
    "      --init BITS:ADDR=VALUE  initial memory\n" ++
    "      --randomize-memory    start with noise in memory\n" ++
    "      --max-instructions N  instruction limit, 0 for none\n" ++
    "  -d, --disasm              print every instruction\n" ++
    "  -c, --coverage            print what was touched\n" ++
    "  -v, --verbose             print more\n" ++
    "  -h, --help                print this text\n" ++
    "  -V, --version             print the version\n"

def noise (seed index : Nat) : UInt8 :=
  let mixed := (UInt64.ofNat (seed + index) + 1) * 0x9e3779b97f4a7c15
  let mixed := (mixed ^^^ (mixed >>> 31)) * 0xbf58476d1ce4e5b9
  (mixed >>> 40).toUInt8

/-- The cause of a failed read. A directory can be opened, so the error of reading it
comes without a name. -/
def readError : IO.Error → ReadError
  | .noFileOrDirectory .. => .notFound
  | .permissionDenied .. => .denied
  | .inappropriateType none .. => .isDirectory
  | .inappropriateType .. => .notDirectory
  | error => .other (toString error)

def readObject (path : String) : IO (Except ReadError (List UInt8)) := do
  try
    return .ok (← IO.FS.readBinFile path).toList
  catch error =>
    return .error (readError error)

def performCommand (command : Command) : IO UInt32 := do
  let seed ← IO.rand 0 0xffffffff
  let output := command.perform (← readObject command.object) (noise seed)
  IO.print output.text
  match output.failure with
  | none => return 0
  | some failure =>
      IO.eprintln failure
      return 1

end SuperHBench.CommandLine

open SuperHBench.CommandLine in
def main (words : List String) : IO UInt32 := do
  match Command.read words with
  | .ok command => performCommand command
  | .error .helpRequested =>
      IO.print usage
      return 0
  | .error .versionRequested =>
      IO.println "superhbench 0.1.0"
      return 0
  | .error error =>
      IO.eprintln s!"error: {error.message}"
      return 2
