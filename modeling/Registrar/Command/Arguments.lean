import Registrar.Pass.Basic
import Registrar.Report

/-!
# Command lines

The arguments of `generate` and `check` are read as units from left to right. A unit is an option,
with its value in the same argument or, for `-o`, in the next one, or it is the path of the
manifest. Each unit changes one setting, so of two units for the same setting the later one counts.
-/

namespace Registrar.Command

/-- The settings of a command line. -/
structure Settings where
  format : Report.Format := .human
  color : Report.ColorMode := .auto
  /-- Where generated files go; the working directory if nothing is said. -/
  outputDirectory : Option String := none
  config : Config := {}
deriving DecidableEq, Repr, Inhabited

/-- What a command line asks for. -/
inductive Action where
  /-- Compile a manifest and write the files. -/
  | generate (manifest : String)
  /-- Compile a manifest and write nothing. -/
  | check (manifest : String)
  /-- Explain a diagnostic code. -/
  | explain (code : String)
  | help
  | version
deriving DecidableEq, Repr

/-- A command line. -/
structure Invocation where
  action : Action
  settings : Settings := {}
deriving DecidableEq, Repr

/-- Why a command line makes no sense. -/
inductive UsageError where
  | unknownCommand (name : String)
  | missingCode
  | missingDirectory
  | missingValue (option : String)
  | invalidFormat (value : String)
  | invalidColor (value : String)
  | unknownOption (arg : String)
  | unexpectedArgument (arg : String)
  | missingManifest (command : String)
deriving DecidableEq, Repr

namespace UsageError

/-- What was expected, in words. -/
def message : UsageError → String
  | unknownCommand name => "unknown command '" ++ name ++ "'"
  | missingCode => "missing error code (e.g. dic --explain DI1002)"
  | missingDirectory => "-o requires a directory"
  | missingValue option => option ++ " requires a value"
  | invalidFormat value => "invalid --format '" ++ value ++ "' (expected human or json)"
  | invalidColor value => "invalid --color '" ++ value ++ "' (expected auto, always or never)"
  | unknownOption arg => "unknown option '" ++ arg ++ "'"
  | unexpectedArgument arg => "unexpected argument '" ++ arg ++ "'"
  | missingManifest command =>
    "missing manifest path (usage: dic " ++ command ++ " <manifest.json>)"

end UsageError

/-- One unit of a command line. -/
inductive Item where
  | outputDirectory (path : String)
  | format (format : Report.Format)
  | color (mode : Report.ColorMode)
  | container (name : String)
  | containerNamespace (name : String)
  | addUsing (name : String)
  | noAttributes
  | keepOrder
  | lenientMarkers
  | manifest (path : String)
deriving DecidableEq, Repr

/-- The formats by name. -/
def readFormat (value : String) : Except UsageError Report.Format :=
  if value = "human" then .ok .human
  else if value = "json" then .ok .json
  else .error (.invalidFormat value)

def readColor (value : String) : Except UsageError Report.ColorMode :=
  if value = "auto" then .ok .auto
  else if value = "always" then .ok .always
  else if value = "never" then .ok .never
  else .error (.invalidColor value)

/-- A value without the blanks at its ends; something has to be left. -/
def readName (option value : String) : Except UsageError String :=
  if (Text.trim value).isEmpty then .error (.missingValue option) else .ok (Text.trim value)

def valueOf? (option arg : String) : Option String :=
  (Text.dropStart? (option ++ "=").toList arg.toList).map String.ofList

/-- The options that have their value in the same argument, and what they say. -/
def valueOptions : List (String × (String → Except UsageError Item)) :=
  [("--out-dir", fun value => .ok (.outputDirectory value)),
    ("--format", fun value => (readFormat value).map .format),
    ("--color", fun value => (readColor value).map .color),
    ("--container", fun value => (readName "--container" value).map .container),
    ("--namespace", fun value => (readName "--namespace" value).map .containerNamespace),
    ("--using", fun value => (readName "--using" value).map .addUsing)]

/-- The unit that one argument is on its own. -/
def Item.ofArgument (arg : String) : Except UsageError Item :=
  match valueOptions.findSome? fun (name, read) => (valueOf? name arg).map read with
  | some item => item
  | none =>
    if arg = "--no-attributes" then .ok .noAttributes
    else if arg = "--keep-order" then .ok .keepOrder
    else if arg = "--lenient-markers" then .ok .lenientMarkers
    else if arg.toList.head? = some '-' then .error (.unknownOption arg)
    else .ok (.manifest arg)

/-- What the units so far say. -/
structure Draft where
  manifest : Option String := none
  settings : Settings := {}
deriving DecidableEq, Repr

namespace Draft

def configure (draft : Draft) (change : Config → Config) : Draft :=
  { draft with settings := { draft.settings with config := change draft.settings.config } }

def configureCode (draft : Draft) (change : Code.Options → Code.Options) : Draft :=
  draft.configure fun config => { config with code := change config.code }

/-- What the units say with one more. Only one manifest can be given. -/
def add (draft : Draft) : Item → Except UsageError Draft
  | .outputDirectory path =>
    .ok { draft with settings := { draft.settings with outputDirectory := some path } }
  | .format format => .ok { draft with settings := { draft.settings with format } }
  | .color mode => .ok { draft with settings := { draft.settings with color := mode } }
  | .container name => .ok (draft.configureCode fun code => { code with containerClass := name })
  | .containerNamespace name =>
    .ok (draft.configureCode fun code => { code with containerNamespace := some name })
  | .addUsing name =>
    .ok (draft.configureCode fun code => { code with usings := code.usings ++ [name] })
  | .noAttributes => .ok (draft.configure fun config => { config with withAttributes := false })
  | .keepOrder => .ok (draft.configure fun config => { config with ordering := .firstSeen })
  | .lenientMarkers =>
    .ok (draft.configure fun config => { config with markerPolicy := .fallThrough })
  | .manifest path =>
    match draft.manifest with
    | none => .ok { draft with manifest := some path }
    | some _ => .error (.unexpectedArgument path)

end Draft

/-- Read units until no argument is left. -/
def readItems (draft : Draft) : List String → Except UsageError Draft
  | [] => .ok draft
  | [arg] =>
    if arg = "-o" then .error .missingDirectory else (Item.ofArgument arg).bind draft.add
  | arg :: next :: rest =>
    if arg = "-o" then
      match draft.add (.outputDirectory next) with
      | .ok draft => readItems draft rest
      | .error e => .error e
    else
      match (Item.ofArgument arg).bind draft.add with
      | .ok draft => readItems draft (next :: rest)
      | .error e => .error e

/-- The manifest and the settings after the name of a command that compiles. -/
def readCompileArguments (command : String) (args : List String) :
    Except UsageError (String × Settings) :=
  match readItems {} args with
  | .error e => .error e
  | .ok draft =>
    match draft.manifest with
    | some path => .ok (path, draft.settings)
    | none => .error (.missingManifest command)

/-- What the arguments after the name of the program ask for; without any, for help. -/
def parse : List String → Except UsageError Invocation
  | [] => .ok { action := .help }
  | command :: args =>
    if command = "generate" then
      (readCompileArguments command args).map fun (path, settings) =>
        { action := .generate path, settings }
    else if command = "check" then
      (readCompileArguments command args).map fun (path, settings) =>
        { action := .check path, settings }
    else if command ∈ ["--explain", "explain"] then
      match args with
      | code :: _ => .ok { action := .explain code }
      | [] => .error .missingCode
    else if command ∈ ["help", "--help", "-h"] then .ok { action := .help }
    else if command ∈ ["version", "--version", "-V"] then .ok { action := .version }
    else .error (.unknownCommand command)

end Registrar.Command
