import OpticScene.CommandLine.Command
import OpticScene.Json.Reader
import OpticScene.Scene.Diagnostic
import OpticScene.Scene.Document

/-!
# Running commands

What the program prints, and which files it reads and writes, as a plan that says for each answer of
the file system how the program goes on.

## Main definitions

* `CommandLine.Outcome`: what is printed, and the exit code.
* `CommandLine.Failure`: why a command fails.
* `CommandLine.Plan`: reading, writing and ending.
* `CommandLine.expandedRecords`, `CommandLine.checkOutcome`, `CommandLine.demodulized`: what the
  commands do with the contents of a file.
* `CommandLine.plan`: the plan for the arguments of the program.
-/

namespace OpticScene.CommandLine

/-! ### Outcomes -/

/-- What the program prints, and its exit code. -/
structure Outcome where
  /-- The exit code. -/
  code : Nat
  /-- What is printed. -/
  stdout : String
  /-- What is printed about errors. -/
  stderr : String
  deriving Repr, DecidableEq, Inhabited

/-- Why a file cannot be read or written. -/
inductive FileError where
  /-- There is no such file or folder. -/
  | missing
  /-- A folder has the name. -/
  | isFolder
  /-- A file stands where a folder should. -/
  | noFolder
  /-- A name in the path is too long. -/
  | longName
  /-- Access is not allowed. -/
  | denied
  /-- Anything else. -/
  | other (message : String)
  deriving Repr, DecidableEq, Inhabited

/-- The text of an error. -/
def FileError.text : FileError → String
  | .missing => "No such file or directory (os error 2)"
  | .isFolder => "Is a directory (os error 21)"
  | .noFolder => "Not a directory (os error 20)"
  | .longName => "File name too long (os error 36)"
  | .denied => "Permission denied (os error 13)"
  | .other message => message

/-- Why a command fails. -/
inductive Failure where
  /-- The path of a module names no file. -/
  | noModuleName (path : String)
  /-- A file cannot be read. -/
  | reading (path : String) (error : FileError)
  /-- A file holds no JSON. -/
  | parsing (path : String) (error : Json.SyntaxError)
  /-- A file holds no scene document. -/
  | document (path : String) (cause : Record.Cause)
  /-- A scene cannot be made or edited. -/
  | scene (error : SceneError)
  /-- Control points are missing. -/
  | pointsMissing (name : String) (needed given : Nat)
  /-- A module cannot be expanded. -/
  | expansion (name message : String)
  /-- A scene has errors. -/
  | hasErrors (path : String)
  /-- A file cannot be written. -/
  | writing (path : String) (error : FileError)
  deriving Repr, DecidableEq, Inhabited

/-- The text of a failure. -/
def Failure.text : Failure → String
  | .noModuleName path => "cannot derive a module name from " ++ path
  | .reading path e => "reading " ++ path ++ ": " ++ e.text
  | .parsing path e => "parsing " ++ path ++ ": " ++ e.message
  | .document path cause => "reading scene " ++ path ++ ": " ++ cause.message
  | .scene e => e.text
  | .pointsMissing name needed given =>
    "module \x60" ++ name ++ "\x60 needs " ++ toString needed ++ " control points, got " ++
      toString given
  | .expansion name message => "expansion of \x60" ++ name ++ "\x60 failed:\n" ++ message
  | .hasErrors path => path ++ " has expansion errors"
  | .writing path e => "writing " ++ path ++ ": " ++ e.text

/-- The outcome of a command that has printed something and then may have failed. -/
def Outcome.ofCommand (stdout : String) : Except Failure Unit → Outcome
  | .ok () => ⟨0, stdout, ""⟩
  | .error failure => ⟨1, stdout, "Error: " ++ failure.text ++ "\n"⟩

/-- The outcome of a command that prints what it has found. -/
def Outcome.ofText : Except Failure String → Outcome
  | .ok stdout => .ofCommand stdout (.ok ())
  | .error failure => .ofCommand "" (.error failure)

/-- The outcome for arguments that cannot be understood. -/
def Outcome.ofUsage (e : UsageError) : Outcome := ⟨2, "", e.text ++ "\n"⟩

/-! ### Plans -/

/-- What is left to do. -/
inductive Plan where
  /-- Nothing but to print. -/
  | done (outcome : Outcome)
  /-- A file is read, and its contents decide how to go on. -/
  | read (path : String) (next : Except FileError String → Plan)
  /-- A file is written, and the success decides how to go on. -/
  | write (path contents : String) (next : Except FileError Unit → Plan)

/-- The plan that reads a file with a JSON value. -/
def readJson (path : String) (next : Json → Plan) : Plan :=
  .read path fun
    | .error e => .done (.ofText (.error (.reading path e)))
    | .ok contents =>
      match Json.parse contents with
      | .error e => .done (.ofText (.error (.parsing path e)))
      | .ok v => next v

/-- A value on lines of its own. -/
def line (pretty : Bool) (v : Json) : String := (if pretty then v.pretty else v.compact) ++ "\n"

/-! ### Expanding a module -/

/-- The part of a file name before its last point. A point at the front does not count. -/
def stem (name : List Char) : List Char :=
  let ending := name.reverse.takeWhile (· ≠ '.')
  let before := (name.reverse.drop (ending.length + 1)).reverse
  if before.isEmpty then name else before

/-- The name of the module in a file: that of the file without its extension. -/
def moduleName? (path : String) : Option String :=
  let parts := (Text.pieces '/' path).filter fun s => s ≠ "" && s ≠ "."
  match parts.getLast? with
  | none => none
  | some name => if name = ".." then none else some (String.ofList (stem name.toList))

/-- Places control points one after the other. -/
def placeAll (index : Nat) : List Point → Scene.Edit Unit
  | [] => return ()
  | p :: ps => do
    let _ ← Scene.place index p
    placeAll index ps

/-- Sets parameters one after the other. -/
def setAll (index : Nat) : List (String × Float) → Scene.Edit Unit
  | [] => return ()
  | (name, x) :: params => do
    Scene.setParam index name x
    setAll index params

/-- Places an instance of a new module, and expands it from the start of the stream. -/
def placeModule (options : ExpandOptions) (name : String) (definition : Json) :
    Scene.Edit (Module.Instance SceneObject) := do
  Scene.setGrid options.grid
  let _ ← Scene.define name definition
  let index ← Scene.beginPlacement name
  placeAll index options.points
  setAll index options.params
  Scene.refresh
  Scene.instanceAt index

/-- The records that an instance expands to, if it is complete and without errors. -/
def instanceRecords (name : String) (inst : Module.Instance SceneObject) :
    Except Failure (List Json) :=
  match inst.placement with
  | .collecting =>
    .error (.pointsMissing name inst.definition.numPoints inst.points.length)
  | .complete =>
    match (SceneObject.module inst).error? with
    | some message => .error (.expansion name message)
    | none => .ok (inst.objects.map SceneObject.toRecord)

/-- The records that a definition expands to. -/
def expandedRecords (options : ExpandOptions) (name : String) (definition : Json) :
    Except Failure (List Json) :=
  match ((Scene.withSeed options.seed).run (placeModule options name definition)).1 with
  | .error e => .error (.scene e)
  | .ok inst => instanceRecords name inst

/-- The plan of the command that expands a module. -/
def expandPlan (options : ExpandOptions) : Plan :=
  match options.name.or (moduleName? options.modulePath) with
  | none => .done (.ofText (.error (.noModuleName options.modulePath)))
  | some name =>
    readJson options.modulePath fun definition =>
      .done (.ofText ((expandedRecords options name definition).map fun records =>
        line options.pretty (.array records)))

/-! ### Checking a scene -/

/-- The scene of a document that was read from a file. -/
def loadScene (path : String) (v : Json) : Except Failure Scene := do
  let doc ← (Scene.Document.decode v).mapError (Failure.document path)
  (Scene.ofDocument doc).mapError Failure.scene

/-- The report about a scene as a JSON value. -/
def reportJson (scene : Scene) : Json :=
  .object
    [("errors", Json.ofOption .string scene.errorReport?),
      ("warnings", Json.ofOption .string scene.warningReport?),
      ("diagnostics",
        .array (scene.diagnostics.map fun (index, d) =>
          .object [("index", .ofNat index), ("diagnostic", d.toJson)]))]

/-- The report about a scene as a text. -/
def reportText (path : String) (scene : Scene) : String :=
  (match scene.warningReport? with
    | some warnings => "warnings:\n" ++ warnings ++ "\n"
    | none => "") ++
  match scene.errorReport? with
  | some errors => "errors:\n" ++ errors ++ "\n"
  | none => path ++ ": " ++ toString scene.objects.length ++ " objects, no errors\n"

/-- The scene with another seed, if one is given. -/
def withSeed (seed : Option UInt64) (scene : Scene) : Scene :=
  match seed with
  | some seed => (scene.run (Scene.reseed seed)).2
  | none => scene

/-- The outcome of checking a scene. -/
def checkOutcome (options : CheckOptions) (scene : Scene) : Outcome :=
  let scene := withSeed options.seed scene
  let report :=
    if options.json then line true (reportJson scene) else reportText options.scenePath scene
  .ofCommand report
    (if scene.errorReport?.isSome then .error (.hasErrors options.scenePath) else .ok ())

/-- The plan of the command that checks a scene. -/
def checkPlan (options : CheckOptions) : Plan :=
  readJson options.scenePath fun v =>
    match loadScene options.scenePath v with
    | .error failure => .done (.ofText (.error failure))
    | .ok scene => .done (checkOutcome options scene)

/-! ### Replacing an instance -/

/-- The document of a scene with the objects of a module instance in its place. -/
def demodulized (index : Nat) (scene : Scene) : Except Failure Json :=
  match scene.run (Scene.demodulize index) with
  | (.error e, _) => .error (.scene e)
  | (.ok _, scene) => .ok scene.toDocument.toJson

/-- The plan of the command that replaces a module instance by its objects. -/
def demodulizePlan (options : DemodulizeOptions) : Plan :=
  readJson options.scenePath fun v =>
    match (loadScene options.scenePath v).bind (demodulized options.index) with
    | .error failure => .done (.ofText (.error failure))
    | .ok doc =>
      match options.outPath with
      | none => .done (.ofText (.ok (line true doc)))
      | some path =>
        .write path doc.pretty fun written =>
          .done (.ofCommand "" (written.mapError (Failure.writing path)))

/-! ### The program -/

/-- The version of the program. -/
def version : String := "0.1.0"

/-- The plan of a command. -/
def Command.plan : Command → Plan
  | .expand options => expandPlan options
  | .check options => checkPlan options
  | .demodulize options => demodulizePlan options

/-- The plan for the arguments of the program. -/
def plan (args : List String) : Plan :=
  match Request.parse args with
  | .error e => .done (.ofUsage e)
  | .ok .version => .done (.ofText (.ok (programName ++ " " ++ version ++ "\n")))
  | .ok .usage => .done (.ofText (.ok (usage ++ "\n")))
  | .ok (.run command) => command.plan

end OpticScene.CommandLine
