/-!
# Command-line arguments

The arguments of a command are read from left to right.  Options that take a
value take it from the same argument or from the next one; flags of one letter
may stand together; after a double hyphen nothing is an option any more.
Reading stops at the first argument that asks for help or for the version, and
at the first mistake.
-/

namespace Baseline

/-- What the arguments ask for. -/
structure Invocation where
  /-- The directory or the file to scan. -/
  root? : Option String := none
  /-- The settings file. -/
  settingsFile? : Option String := none
  /-- The extension of sources. -/
  extension? : Option String := none
  /-- The smoke suite is left out. -/
  skipSmoke : Bool := false
  /-- How much is logged. -/
  verbosity : Nat := 0
  deriving DecidableEq, Repr

/-- The settings file that is used if none is named. -/
def Invocation.defaultSettingsFile : String :=
  "syntax-golden.toml"

/-- The settings file to use. -/
def Invocation.settingsFile (invocation : Invocation) : String :=
  invocation.settingsFile?.getD defaultSettingsFile

/-- What is wrong with the arguments. -/
inductive UsageError
  /-- No option has that name. -/
  | unknown (argument : String)
  /-- The option needs a value. -/
  | missingValue (option : String)
  /-- The option takes no value. -/
  | unexpectedValue (option : String)
  /-- The option was given before. -/
  | repeated (option : String)
  /-- Nothing is left for the argument to be. -/
  | surplus (argument : String)
  deriving DecidableEq, Repr

/-- The mistake in words. -/
def UsageError.message : UsageError → String
  | .unknown argument => s!"error: unexpected argument '{argument}' found"
  | .missingValue option => s!"error: a value is required for '{option}' but none was supplied"
  | .unexpectedValue option => s!"error: unexpected value for '{option}' found"
  | .repeated option => s!"error: the argument '{option}' cannot be used multiple times"
  | .surplus argument => s!"error: unexpected argument '{argument}' found"

/-- Why reading the arguments ends before a run. -/
inductive Stop
  /-- Help is asked for. -/
  | help
  /-- The version is asked for. -/
  | version
  /-- The arguments make no sense. -/
  | misuse (error : UsageError)
  deriving DecidableEq, Repr

/-- An option without a value. -/
inductive Flag
  /-- Leave the smoke suite out. -/
  | skipSmoke
  /-- Log more. -/
  | verbose
  /-- Ask for help. -/
  | help
  /-- Ask for the version. -/
  | version
  deriving DecidableEq, Repr

/-- Take a flag into account. -/
def Flag.apply (invocation : Invocation) : Flag → Except Stop Invocation
  | .skipSmoke =>
      if invocation.skipSmoke then .error (.misuse (.repeated "--skip-smoke"))
      else .ok { invocation with skipSmoke := true }
  | .verbose => .ok { invocation with verbosity := invocation.verbosity + 1 }
  | .help => .error .help
  | .version => .error .version

/-- An option with a value. -/
inductive ValueOption
  /-- The settings file. -/
  | settingsFile
  /-- The extension of sources. -/
  | extension
  deriving DecidableEq, Repr

namespace ValueOption

/-- The option as it is written. -/
def name : ValueOption → String
  | .settingsFile => "--config <CONFIG>"
  | .extension => "--ext <EXT>"

/-- Take the value of an option into account; a file has a name. -/
def apply (invocation : Invocation) (value : String) (option : ValueOption) :
    Except Stop Invocation :=
  match option with
  | .settingsFile =>
      if invocation.settingsFile?.isSome then .error (.misuse (.repeated option.name))
      else if value.isEmpty then .error (.misuse (.missingValue option.name))
      else .ok { invocation with settingsFile? := some value }
  | .extension =>
      if invocation.extension?.isSome then .error (.misuse (.repeated option.name))
      else .ok { invocation with extension? := some value }

end ValueOption

/-- An option of either kind. -/
inductive CommandOption
  /-- An option without a value. -/
  | flag (flag : Flag)
  /-- An option with a value. -/
  | valued (option : ValueOption)
  deriving DecidableEq, Repr

namespace CommandOption

/-- The option with a long name. -/
def ofName? : List Char → Option CommandOption := fun name =>
  match String.ofList name with
  | "config" => some (.valued .settingsFile)
  | "ext" => some (.valued .extension)
  | "skip-smoke" => some (.flag .skipSmoke)
  | "verbose" => some (.flag .verbose)
  | "help" => some (.flag .help)
  | "version" => some (.flag .version)
  | _ => none

/-- The option with a name of one letter. -/
def ofLetter? : Char → Option CommandOption
  | 'c' => some (.valued .settingsFile)
  | 'v' => some (.flag .verbose)
  | 'h' => some (.flag .help)
  | 'V' => some (.flag .version)
  | _ => none

end CommandOption

namespace Invocation

/-- How far the arguments are read. -/
structure Reading where
  /-- What the arguments so far ask for. -/
  invocation : Invocation := {}
  /-- The option whose value the next argument is. -/
  awaiting? : Option ValueOption := none
  /-- Nothing is an option any more. -/
  plainOnly : Bool := false
  deriving DecidableEq, Repr

namespace Reading

/-- Read an argument that is no option. -/
def plain (reading : Reading) (argument : String) : Except Stop Reading :=
  if reading.invocation.root?.isSome then .error (.misuse (.surplus argument))
  else .ok { reading with invocation.root? := some argument }

/-- Read the value of an option. -/
def value (reading : Reading) (option : ValueOption) (value : List Char) :
    Except Stop Reading := do
  let invocation ← option.apply reading.invocation (String.ofList value)
  return { reading with invocation, awaiting? := none }

/-- Read an option with a long name, and its value after an equals sign. -/
def long (reading : Reading) (text : List Char) : Except Stop Reading := do
  let name := text.takeWhile (· != '=')
  let attached := text.dropWhile (· != '=')
  match CommandOption.ofName? name, attached with
  | none, _ => throw (.misuse (.unknown ("--" ++ String.ofList name)))
  | some (.valued option), [] => return { reading with awaiting? := some option }
  | some (.valued option), _ :: value => reading.value option value
  | some (.flag flag), [] =>
      return { reading with invocation := ← flag.apply reading.invocation }
  | some (.flag _), _ :: _ =>
      throw (.misuse (.unexpectedValue ("--" ++ String.ofList name)))

/-- Read options of one letter that stand together.  What follows an option that
takes a value is its value, set off by an equals sign or not. -/
def letters (reading : Reading) : List Char → Except Stop Reading
  | [] => return reading
  | letter :: rest =>
      match CommandOption.ofLetter? letter, rest with
      | none, _ => throw (.misuse (.unknown (String.ofList ['-', letter])))
      | some (.valued option), [] => return { reading with awaiting? := some option }
      | some (.valued option), '=' :: value => reading.value option value
      | some (.valued option), value => reading.value option value
      | some (.flag flag), rest => do
          let invocation ← flag.apply reading.invocation
          { reading with invocation }.letters rest

/-- Read one argument. -/
def argument (reading : Reading) (argument : String) : Except Stop Reading :=
  if reading.plainOnly then reading.plain argument
  else
    match argument.toList, reading.awaiting? with
    | '-' :: _ :: _, some option => throw (.misuse (.missingValue option.name))
    | ['-', '-'], none => return { reading with plainOnly := true }
    | '-' :: '-' :: text, none => reading.long text
    | '-' :: letter :: rest, none => reading.letters (letter :: rest)
    | value, some option => reading.value option value
    | _, none => reading.plain argument

/-- End reading; no option may be left without its value. -/
def finish (reading : Reading) : Except Stop Invocation :=
  match reading.awaiting? with
  | some option => .error (.misuse (.missingValue option.name))
  | none => .ok reading.invocation

end Reading

/-- What the arguments ask for, or why there is no run. -/
def ofArguments (arguments : List String) : Except Stop Invocation := do
  (← arguments.foldlM Reading.argument {}).finish

end Invocation
end Baseline
