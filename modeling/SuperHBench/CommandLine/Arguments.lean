import SuperHBench.CommandLine.Value

/-! # Arguments

The words of a command line name an object file and set options. Options have long
names, some have letters, and letters may be run together. A value may be attached
to its option or be the next word, even one that looks like an option where the
option takes negative numbers.

The value of an option is looked at when the next one begins or the line ends. Words
that mean nothing are reported before a bad value that is still waiting. -/

namespace SuperHBench.CommandLine

/-! ## Options -/

inductive Setting where
  | object
  | entry
  | argument
  | floatArgument
  | expectedReturn
  | floatReturn
  | binding
  | initialValue
  | limit
deriving DecidableEq, Repr

inductive Switch where
  | randomizeMemory
  | listing
  | coverage
  | verbose
  | help
  | version
deriving DecidableEq, Repr

inductive Parameter where
  | setting (which : Setting)
  | switch (which : Switch)
deriving DecidableEq, Repr

def Setting.takesAnyWord : Setting → Bool
  | .argument | .floatArgument | .expectedReturn | .floatReturn => true
  | _ => false

def Setting.text : Setting → String
  | .object => "OBJECT"
  | .entry => "--entry"
  | .argument => "--arg"
  | .floatArgument => "--float-arg"
  | .expectedReturn => "--return"
  | .floatReturn => "--float-return"
  | .binding => "--bind"
  | .initialValue => "--init"
  | .limit => "--max-instructions"

def Switch.text : Switch → String
  | .randomizeMemory => "--randomize-memory"
  | .listing => "--disasm"
  | .coverage => "--coverage"
  | .verbose => "--verbose"
  | .help => "--help"
  | .version => "--version"

namespace Parameter

def text : Parameter → String
  | .setting which => which.text
  | .switch which => which.text

def named : List Parameter :=
  ([.entry, .argument, .floatArgument, .expectedReturn, .floatReturn, .binding,
    .initialValue, .limit] : List Setting).map setting ++
  ([.randomizeMemory, .listing, .coverage, .verbose, .help, .version] : List Switch).map switch

def ofName? (name : String) : Option Parameter :=
  named.find? (·.text = "--" ++ name)

def ofLetter? : Char → Option Parameter
  | 'e' => some (.setting .entry)
  | 'b' => some (.setting .binding)
  | 'd' => some (.switch .listing)
  | 'c' => some (.switch .coverage)
  | 'v' => some (.switch .verbose)
  | 'h' => some (.switch .help)
  | 'V' => some (.switch .version)
  | _ => none

end Parameter

structure Options where
  entry : Option String := none
  arguments : List Int := []
  floatArguments : List UInt32 := []
  expectedReturn : Option Int := none
  floatReturn : Option UInt32 := none
  bindings : List Binding := []
  initialValues : List InitialValue := []
  /-- How many instructions a run may take, zero for any number. -/
  limit : Option Nat := none
  randomizeMemory : Bool := false
  listing : Bool := false
  coverage : Bool := false
  verbose : Bool := false
deriving DecidableEq, Repr

namespace Options

def defaultLimit : Nat :=
  10000000

def limitOrDefault (options : Options) : Nat :=
  options.limit.getD defaultLimit

end Options

structure Command where
  object : String
  options : Options
deriving DecidableEq, Repr

/-! ## Errors -/

inductive ArgumentError where
  | unknownArgument (word : String)
  | conflict (first second : Parameter)
  | missingValue (setting : Setting)
  | unneededValue (switch : Switch)
  | missingObject
  | invalidValue (setting : Setting) (cause : ValueError)
  | helpRequested
  | versionRequested
deriving DecidableEq, Repr

def ArgumentError.message : ArgumentError → String
  | .unknownArgument word => s!"unexpected argument '{word}'"
  | .conflict first second => s!"{first.text} cannot be used with {second.text}"
  | .missingValue setting => s!"a value is required for {setting.text}"
  | .unneededValue switch => s!"{switch.text} takes no value"
  | .missingObject => "no object file is given"
  | .invalidValue setting cause => s!"invalid value for {setting.text}: {cause.message}"
  | .helpRequested => "help requested"
  | .versionRequested => "version requested"

/-! ## Setting options -/

structure Draft where
  object : Option String := none
  options : Options := {}
deriving DecidableEq, Repr

namespace Draft

def once (already : Bool) (parameter : Parameter) : Except ArgumentError PUnit :=
  if already then .error (.conflict parameter parameter) else .ok ()

def read (setting : Setting) (result : Except ValueError α) : Except ArgumentError α :=
  result.mapError (ArgumentError.invalidValue setting)

def set (draft : Draft) (setting : Setting) (value : String) : Except ArgumentError Draft := do
  let options := draft.options
  match setting with
  | .object =>
      once draft.object.isSome (.setting .object)
      if value.isEmpty then throw (.missingValue .object)
      return { draft with object := some value }
  | .entry =>
      once options.entry.isSome (.setting .entry)
      return { draft with options.entry := some value }
  | .argument =>
      let value ← read .argument (readInteger value)
      return { draft with options.arguments := options.arguments ++ [value] }
  | .floatArgument =>
      let bits ← read .floatArgument (readFloat value)
      return { draft with options.floatArguments := options.floatArguments ++ [bits] }
  | .expectedReturn =>
      once options.expectedReturn.isSome (.setting .expectedReturn)
      let value ← read .expectedReturn (readInteger value)
      return { draft with options.expectedReturn := some value }
  | .floatReturn =>
      once options.floatReturn.isSome (.setting .floatReturn)
      let bits ← read .floatReturn (readFloat value)
      return { draft with options.floatReturn := some bits }
  | .binding =>
      let binding ← read .binding (readBinding value)
      return { draft with options.bindings := options.bindings ++ [binding] }
  | .initialValue =>
      let initial ← read .initialValue (readInitialValue value)
      return { draft with options.initialValues := options.initialValues ++ [initial] }
  | .limit =>
      once options.limit.isSome (.setting .limit)
      let limit ← read .limit (readCount value)
      return { draft with options.limit := some limit }

def turnOn (draft : Draft) (switch : Switch) : Except ArgumentError Draft := do
  let options := draft.options
  match switch with
  | .randomizeMemory =>
      once options.randomizeMemory (.switch switch)
      return { draft with options.randomizeMemory := true }
  | .listing =>
      once options.listing (.switch switch)
      return { draft with options.listing := true }
  | .coverage =>
      once options.coverage (.switch switch)
      return { draft with options.coverage := true }
  | .verbose =>
      once options.verbose (.switch switch)
      return { draft with options.verbose := true }
  | .help => throw .helpRequested
  | .version => throw .versionRequested

def finish (draft : Draft) : Except ArgumentError Command :=
  if draft.options.expectedReturn.isSome && draft.options.floatReturn.isSome then
    .error (.conflict (.setting .expectedReturn) (.setting .floatReturn))
  else
    match draft.object with
    | none => .error .missingObject
    | some object => .ok ⟨object, draft.options⟩

end Draft

/-! ## Words -/

inductive Word.Shape where
  /-- Two dashes: only file names follow. -/
  | escape
  | name (name : String) (value : Option String)
  | letters (letters : List Char)
  | plain
deriving DecidableEq, Repr

def Word.shape (word : String) : Word.Shape :=
  match word.toList with
  | ['-', '-'] => .escape
  | '-' :: '-' :: rest =>
      match splitOnce? '=' (String.ofList rest) with
      | some (name, value) => .name name (some value)
      | none => .name (String.ofList rest) none
  | '-' :: letter :: rest => .letters (letter :: rest)
  | _ => .plain

structure Reading where
  draft : Draft := {}
  /-- A setting that has not been looked at yet, with its value if it has one. -/
  waiting : Option (Setting × Option String) := none
  wantsValue : Bool := false
  onlyFiles : Bool := false
  objectGiven : Bool := false

namespace Reading

def settle (reading : Reading) : Except ArgumentError Reading :=
  match reading.waiting with
  | none => .ok reading
  | some (setting, none) => .error (.missingValue setting)
  | some (setting, some value) =>
      (reading.draft.set setting value).map fun draft =>
        { reading with draft, waiting := none, wantsValue := false }

def attach (reading : Reading) (setting : Setting) (value : String) :
    Except ArgumentError Reading := do
  let reading ← reading.settle
  let draft ← reading.draft.set setting value
  return { reading with draft }

def await (reading : Reading) (setting : Setting) : Except ArgumentError Reading := do
  let reading ← reading.settle
  return { reading with waiting := some (setting, none), wantsValue := true }

def turnOn (reading : Reading) (switch : Switch) : Except ArgumentError Reading := do
  let reading ← reading.settle
  let draft ← reading.draft.turnOn switch
  return { reading with draft }

def value (reading : Reading) (word : String) : Reading :=
  { reading with
    waiting := reading.waiting.map fun (setting, _) => (setting, some word)
    wantsValue := false }

def file (reading : Reading) (word : String) : Except ArgumentError Reading :=
  if reading.objectGiven then
    .error (.unknownArgument word)
  else do
    let reading ← reading.settle
    return { reading with waiting := some (.object, some word), objectGiven := true }

def name (reading : Reading) (name : String) (value : Option String) :
    Except ArgumentError Reading :=
  match Parameter.ofName? name, value with
  | some (.setting setting), some value => reading.attach setting value
  | some (.setting setting), none => reading.await setting
  | some (.switch switch), some _ => .error (.unneededValue switch)
  | some (.switch switch), none => reading.turnOn switch
  | none, _ => .error (.unknownArgument ("--" ++ name))

/-- Letters one after another. A setting takes what is left of them for its value,
after an equals sign if there is one. -/
def letters (reading : Reading) : List Char → Except ArgumentError Reading
  | [] => .ok reading
  | letter :: rest =>
      match Parameter.ofLetter? letter, rest with
      | none, _ => .error (.unknownArgument (String.ofList ['-', letter]))
      | some (.switch switch), rest => do (← reading.turnOn switch).letters rest
      | some (.setting setting), [] => reading.await setting
      | some (.setting setting), '=' :: value => reading.attach setting (String.ofList value)
      | some (.setting setting), value => reading.attach setting (String.ofList value)

def takesAnyWord (reading : Reading) : Bool :=
  reading.wantsValue && reading.waiting.any fun (setting, _) => setting.takesAnyWord

def word (reading : Reading) (word : String) : Except ArgumentError Reading :=
  if reading.onlyFiles then
    reading.file word
  else if reading.takesAnyWord then
    .ok (reading.value word)
  else
    match Word.shape word with
    | .escape => .ok { reading with onlyFiles := true }
    | .name name value => reading.name name value
    | .letters letters => reading.letters letters
    | .plain => if reading.wantsValue then .ok (reading.value word) else reading.file word

end Reading

def Command.read (words : List String) : Except ArgumentError Command := do
  let reading ← words.foldlM Reading.word {}
  let reading ← reading.settle
  reading.draft.finish

end SuperHBench.CommandLine
