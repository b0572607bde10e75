import OpticScene.CommandLine.Options

/-!
# Commands

The three commands of the program and their options.

## Main definitions

* `CommandLine.Command`: the commands with their options.
* `CommandLine.Request`, `CommandLine.Request.parse`: what the arguments ask for.
-/

namespace OpticScene.CommandLine

/-- What is expanded, and how. -/
structure ExpandOptions where
  /-- The file with the definition of the module. -/
  modulePath : String
  /-- The name of the module; that of the file where none is given. -/
  name : Option String
  /-- The control points in order. -/
  points : List Point
  /-- The values of parameters, in the order in which they are set. -/
  params : List (String × Float)
  /-- The seed of the random stream. -/
  seed : UInt64
  /-- The spacing of the grid that control points snap to. -/
  grid : Option Float
  /-- Whether the records are printed over several lines. -/
  pretty : Bool

/-- What is checked, and how. -/
structure CheckOptions where
  /-- The file with the scene. -/
  scenePath : String
  /-- A seed to use instead of the one of the scene. -/
  seed : Option UInt64
  /-- Whether the report is printed as JSON. -/
  json : Bool

/-- What is replaced by its objects. -/
structure DemodulizeOptions where
  /-- The file with the scene. -/
  scenePath : String
  /-- The index of the module instance. -/
  index : Nat
  /-- The file that the scene is written to; none where it is printed. -/
  outPath : Option String

/-- The commands. -/
inductive Command where
  /-- Prints the records that a module expands to. -/
  | expand (options : ExpandOptions)
  /-- Reports what is wrong with a scene. -/
  | check (options : CheckOptions)
  /-- Puts the objects of a module instance in its place. -/
  | demodulize (options : DemodulizeOptions)

/-! ### Options -/

/-- The file with a module. -/
def moduleOption : ValueOption String := ⟨"module", "MODULE", path⟩

/-- The name of a module. -/
def nameOption : ValueOption String := ⟨"name", "NAME", text⟩

/-- A control point. -/
def pointOption : ValueOption Point := ⟨"point", "POINTS", point⟩

/-- The value of a parameter. -/
def paramOption : ValueOption (String × Float) := ⟨"param", "PARAMS", assignment⟩

/-- A seed. -/
def seedOption : ValueOption Nat := ⟨"seed", "SEED", natural⟩

/-- The spacing of a grid. -/
def gridOption : ValueOption Float := ⟨"grid", "GRID", float⟩

/-- Printing over several lines. -/
def prettyFlag : Flag := ⟨"pretty"⟩

/-- The file with a scene. -/
def sceneOption : ValueOption String := ⟨"scene", "SCENE", path⟩

/-- Printing as JSON. -/
def jsonFlag : Flag := ⟨"json"⟩

/-- An index. -/
def indexOption : ValueOption Nat := ⟨"index", "INDEX", natural⟩

/-- The file that is written. -/
def outOption : ValueOption String := ⟨"out", "OUT", path⟩

/-! ### Parsing -/

/-- The expansion that arguments describe. -/
def ExpandOptions.parse (args : List String) : Except UsageError ExpandOptions := do
  let specs : List Spec :=
    [moduleOption.once, nameOption.once, pointOption.many, paramOption.many, seedOption.once,
      gridOption.once, prettyFlag.once]
  let given ← Given.scan specs [] none args
  return {
    modulePath := ← given.required moduleOption
    name := ← given.optional nameOption
    points := ← given.values pointOption
    params := ← given.values paramOption
    seed := UInt64.ofNat ((← given.optional seedOption).getD 0)
    grid := ← given.optional gridOption
    pretty := given.has prettyFlag.name }

/-- The check that arguments describe. -/
def CheckOptions.parse (args : List String) : Except UsageError CheckOptions := do
  let given ← Given.scan [sceneOption.once, seedOption.once, jsonFlag.once] [] none args
  return {
    scenePath := ← given.required sceneOption
    seed := (← given.optional seedOption).map UInt64.ofNat
    json := given.has jsonFlag.name }

/-- The replacement that arguments describe. -/
def DemodulizeOptions.parse (args : List String) : Except UsageError DemodulizeOptions := do
  let given ← Given.scan [sceneOption.once, indexOption.once, outOption.once] [] none args
  return {
    scenePath := ← given.required sceneOption
    index := ← given.required indexOption
    outPath := ← given.optional outOption }

/-- The command of a name, with arguments; none if there is no such command. -/
def Command.parse? (name : String) (args : List String) : Option (Except UsageError Command) :=
  match name with
  | "expand" => some ((ExpandOptions.parse args).map .expand)
  | "check" => some ((CheckOptions.parse args).map .check)
  | "demodulize" => some ((DemodulizeOptions.parse args).map .demodulize)
  | _ => none

/-- The word that asks how to call the program or one of its commands. -/
def helpWord : String := "help"

/-- Whether a word stands for something that the program does. -/
def isCommandName (word : String) : Bool :=
  word = helpWord || (Command.parse? word []).isSome

/-- What the program is asked for. -/
inductive Request where
  /-- Its version. -/
  | version
  /-- How it is called. -/
  | usage
  /-- A command. -/
  | run (command : Command)

/-- How the option for the version is written. -/
def versionFlag : Flag := ⟨"version"⟩

/-- What the words after the one that asks for help ask for: at most one command, or again for
help. -/
def helpRequest : List String → Except UsageError Request
  | [] => .ok .usage
  | word :: words =>
    if isCommandName word then
      match words with
      | [] => .ok .usage
      | extra :: _ => .error (.unknownCommand extra)
    else .error (.unknownCommand word)

/-- What the arguments of the program ask for. -/
def Request.parse : List String → Except UsageError Request
  | [] => .error .noCommand
  | arg :: args =>
    match Command.parse? arg args with
    | some command => command.map .run
    | none =>
      match Given.shape arg with
      | .stop =>
        match args with
        | [] => .error .noCommand
        | arg :: _ =>
          if isCommandName arg then .error (.unexpectedArgument arg)
          else .error (.unknownCommand arg)
      | .long name value =>
        if name = versionFlag.name then
          match value with
          | some value => .error (.unexpectedValue value versionFlag.text)
          | none => .ok .version
        else .error (.unexpectedArgument ("--" ++ name))
      | .short 'V' => .ok .version
      | .short letter => .error (.unexpectedArgument (String.ofList ['-', letter]))
      | .plain =>
        if arg = helpWord then helpRequest args else .error (.unknownCommand arg)

end OpticScene.CommandLine
