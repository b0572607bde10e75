import OpticScene.Geometry
import OpticScene.Decimal.Read
import OpticScene.Text.Blank
import OpticScene.Text.Cut

/-!
# Options on the command line

Options have long names. The value of an option follows it as the next argument or after an equals
sign; a value that starts with a dash has to stand after an equals sign. A value in an argument of
its own is read only when the option after it has been recognised, so that an unknown option is
reported before a wrong value in front of it.

## Main definitions

* `CommandLine.UsageError`: what is wrong with the arguments.
* `CommandLine.ValueOption`, `CommandLine.Flag`: options with and without a value.
* `CommandLine.Given.scan`: the options that arguments give.
* `CommandLine.path`, `CommandLine.natural`, `CommandLine.float`, `CommandLine.point`,
  `CommandLine.assignment`: reading values.
-/

namespace OpticScene.CommandLine

/-- Why the arguments cannot be understood. -/
inductive UsageError where
  /-- There are no arguments. -/
  | noCommand
  /-- There is no such command. -/
  | unknownCommand (arg : String)
  /-- An argument has no meaning where it stands. -/
  | unexpectedArgument (arg : String)
  /-- An option without a value is given one. -/
  | unexpectedValue (value option : String)
  /-- An option that may be given once is given twice. -/
  | repeated (option : String)
  /-- The value of an option is missing. -/
  | missingValue (option : String)
  /-- The value of an option cannot be read. -/
  | invalidValue (value option reason : String)
  /-- An option that has to be given is missing. -/
  | missingOption
  deriving Repr, DecidableEq, Inhabited

/-- The name under which the program is called. -/
def programName : String := "optics-modules"

/-- How the program is called. -/
def usage : String := "Usage: " ++ programName ++ " <COMMAND>"

/-- The text of an error. -/
def UsageError.text : UsageError → String
  | .noCommand => usage
  | .unknownCommand arg => "error: unrecognized subcommand '" ++ arg ++ "'"
  | .unexpectedArgument arg => "error: unexpected argument '" ++ arg ++ "' found"
  | .unexpectedValue value option =>
    "error: unexpected value '" ++ value ++ "' for '" ++ option ++
      "' found; no more were expected"
  | .repeated option => "error: the argument '" ++ option ++ "' cannot be used multiple times"
  | .missingValue option =>
    "error: a value is required for '" ++ option ++ "' but none was supplied"
  | .invalidValue value option reason =>
    "error: invalid value '" ++ value ++ "' for '" ++ option ++ "': " ++ reason
  | .missingOption => "error: the following required arguments were not provided:"

/-! ### Values -/

/-- Why the value of an option cannot be read. -/
inductive ValueError where
  /-- It counts as missing. -/
  | missing
  /-- It is wrong. -/
  | invalid (reason : String)
  deriving Repr, DecidableEq, Inhabited

/-- Reads the value of an option. -/
abbrev ValueReader (α : Type) := String → Except ValueError α

/-- Any text. -/
def text : ValueReader String := .ok

/-- The path of a file. -/
def path : ValueReader String := fun s => if s.isEmpty then .error .missing else .ok s

/-- A natural number. -/
def natural : ValueReader Nat := fun s =>
  (Decimal.readNat s).mapError fun e => .invalid e.message

/-- A number. -/
def float : ValueReader Float := fun s =>
  (Decimal.readFloat s).mapError fun e => .invalid e.message

/-- A number in a part of a value, with blanks around it. -/
def part : ValueReader Float := fun s =>
  (Decimal.readFloat (Text.trim s)).mapError fun e =>
    .invalid ("\x60" ++ s ++ "\x60: " ++ e.message)

/-- Two coordinates with a comma between them. -/
def point : ValueReader Point := fun s =>
  match Text.cut? ',' s with
  | none => .error (.invalid ("expected X,Y, got \x60" ++ s ++ "\x60"))
  | some (x, y) => do return ⟨← part x, ← part y⟩

/-- A name and a number with an equals sign between them. -/
def assignment : ValueReader (String × Float) := fun s =>
  match Text.cut? '=' s with
  | none => .error (.invalid ("expected NAME=VALUE, got \x60" ++ s ++ "\x60"))
  | some (name, value) => do return (Text.trim name, ← part value)

/-! ### Options -/

/-- An option with a value. -/
structure ValueOption (α : Type) where
  /-- Its name, without the dashes. -/
  name : String
  /-- What its value is called. -/
  placeholder : String
  /-- How its value is read. -/
  read : ValueReader α

/-- How an option is written in messages. -/
def ValueOption.text (option : ValueOption α) : String :=
  "--" ++ option.name ++ " <" ++ option.placeholder ++ ">"

/-- Reads a value of an option. -/
def ValueOption.value (option : ValueOption α) (s : String) : Except UsageError α :=
  (option.read s).mapError fun
    | .missing => .missingValue option.text
    | .invalid reason => .invalidValue s option.text reason

/-- An option without a value. -/
structure Flag where
  /-- Its name, without the dashes. -/
  name : String
  deriving Repr, DecidableEq, Inhabited

/-- How an option is written in messages. -/
def Flag.text (flag : Flag) : String := "--" ++ flag.name

/-- What may be given to a command. -/
structure Spec where
  /-- The name of the option, without the dashes. -/
  name : String
  /-- How it is written in messages. -/
  text : String
  /-- Whether it has a value. -/
  hasValue : Bool
  /-- Whether it may be given more than once. -/
  isRepeatable : Bool
  /-- Whether a value may be given to it. -/
  check : String → Except UsageError Unit

/-- An option with a value that may be given once. -/
def ValueOption.once (option : ValueOption α) : Spec :=
  ⟨option.name, option.text, true, false, fun s => (option.value s).map fun _ => ()⟩

/-- An option with a value that may be given more than once. -/
def ValueOption.many (option : ValueOption α) : Spec :=
  { option.once with isRepeatable := true }

/-- An option without a value; it may be given once. -/
def Flag.once (flag : Flag) : Spec := ⟨flag.name, flag.text, false, false, fun _ => .ok ()⟩

/-! ### Scanning -/

/-- The options that were given, by name and in order, with their values. -/
abbrev Given := List (String × String)

namespace Given

/-- Whether an option was given. -/
def has (given : Given) (name : String) : Bool := given.any fun p => p.1 = name

/-- Adds an option with its value. -/
def accept (spec : Spec) (value : String) (given : Given) : Except UsageError Given := do
  if !spec.isRepeatable && given.has spec.name then throw (.repeated spec.text)
  spec.check value
  return given ++ [(spec.name, value)]

/-- An option whose value is still to come or to be read. -/
abbrev Pending := Option (Spec × Option String)

/-- Adds the option that is waiting. -/
def settle (given : Given) : Pending → Except UsageError Given
  | none => .ok given
  | some (spec, none) => .error (.missingValue spec.text)
  | some (spec, some value) => given.accept spec value

/-- The ways to write an argument. -/
inductive Shape where
  /-- Two dashes: no options follow. -/
  | stop
  /-- An option with a long name, perhaps with a value. -/
  | long (name : String) (value : Option String)
  /-- Options with short names, of which the first is told. -/
  | short (letter : Char)
  /-- Anything else. -/
  | plain
  deriving Repr, DecidableEq, Inhabited

/-- How an argument is written. -/
def shape (arg : String) : Shape :=
  match arg.toList with
  | ['-', '-'] => .stop
  | '-' :: '-' :: name =>
    match Text.cutChars? '=' name with
    | some (name, value) => .long (String.ofList name) (some (String.ofList value))
    | none => .long (String.ofList name) none
  | '-' :: letter :: _ => .short letter
  | _ => .plain

/-- The options that arguments give, after those that were `given` and the one that is waiting. -/
def scan (specs : List Spec) (given : Given) (pending : Pending) :
    List String → Except UsageError Given
  | [] => given.settle pending
  | arg :: args =>
    match shape arg with
    | .stop =>
      match args with
      | [] => given.settle pending
      | arg :: _ => .error (.unexpectedArgument arg)
    | .short letter => .error (.unexpectedArgument (String.ofList ['-', letter]))
    | .plain =>
      match pending with
      | some (spec, none) => scan specs given (some (spec, some arg)) args
      | _ => .error (.unexpectedArgument arg)
    | .long name value =>
      match specs.find? (fun spec => spec.name = name), value with
      | none, _ => .error (.unexpectedArgument ("--" ++ name))
      | some spec, some value =>
        if spec.hasValue then do
          scan specs (← (← given.settle pending).accept spec value) none args
        else .error (.unexpectedValue value spec.text)
      | some spec, none =>
        if spec.hasValue then do scan specs (← given.settle pending) (some (spec, none)) args
        else do scan specs (← (← given.settle pending).accept spec "") none args

/-! ### Looking up -/

/-- The values of an option, in order. -/
def values (given : Given) (option : ValueOption α) : Except UsageError (List α) :=
  (given.filter fun p => p.1 = option.name).mapM fun p => option.value p.2

/-- The value of an option that may be missing. -/
def optional (given : Given) (option : ValueOption α) : Except UsageError (Option α) :=
  return (← given.values option).head?

/-- The value of an option that has to be given. -/
def required (given : Given) (option : ValueOption α) : Except UsageError α := do
  match ← given.optional option with
  | some value => return value
  | none => throw .missingOption

end Given

end OpticScene.CommandLine
