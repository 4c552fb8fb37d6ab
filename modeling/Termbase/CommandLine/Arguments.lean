import Termbase.FileTree.Path
import Termbase.Ontology.TermOrder

/-! The arguments of the command line: switches, settings with one value each, and the ontology files, which
stand together in one place. Arguments are read from left to right, and the first fault is the one that is
reported; a setting is checked when the next argument begins. -/

namespace Termbase.CommandLine

inductive Switch
  | version
  | quiet
  | verbose
  | force
  | namespaceTerm
deriving DecidableEq, Repr

inductive Setting
  | header
  | outputDirectory
  | termOrder
  | registerIn
deriving DecidableEq, Repr

inductive Flag
  | switch (switch : Switch)
  | setting (setting : Setting)
  | help
deriving DecidableEq, Repr

def flags : List (Char × String × Flag) :=
  [('V', "version", .switch .version), ('q', "quiet", .switch .quiet),
    ('v', "verbose", .switch .verbose), ('f', "force", .switch .force),
    ('H', "header", .setting .header), ('O', "output-directory", .setting .outputDirectory),
    ('o', "term-order", .setting .termOrder), ('n', "namespace-term", .switch .namespaceTerm),
    ('r', "register-in", .setting .registerIn), ('h', "help", .help)]

def ofLetter? (letter : Char) : Option Flag := (flags.find? (·.1 == letter)).map (·.2.2)

def ofName? (name : Text) : Option Flag := (flags.find? (·.2.1.toList == name)).map (·.2.2)

inductive UsageError
  | helpWanted
  | conflict
  | invalidValue
  | unknownArgument
  | unwantedValue
  | missingArgument
deriving DecidableEq, Repr

def UsageError.message : UsageError → String
  | .helpWanted => "help is wanted"
  | .conflict => "an argument is given twice, or together with one that excludes it"
  | .invalidValue => "an argument has an invalid value, or none"
  | .unknownArgument => "there is no such argument"
  | .unwantedValue => "an argument has a value but takes none"
  | .missingArgument => "the output directory and the ontology files are required"

structure Arguments where
  switches : List Switch
  settings : List (Setting × Text)
  ontologies : List Path
deriving DecidableEq, Repr

namespace Arguments

def empty : Arguments := ⟨[], [], []⟩

def isOn (arguments : Arguments) (switch : Switch) : Bool := arguments.switches.contains switch

def value? (arguments : Arguments) (setting : Setting) : Option Text := arguments.settings.lookup setting

def turnOn (arguments : Arguments) (switch : Switch) : Except UsageError Arguments :=
  if arguments.isOn switch then .error .conflict
  else .ok { arguments with switches := arguments.switches ++ [switch] }

def accepts : Setting → Text → Bool
  | .header, _ => true
  | .outputDirectory, value | .registerIn, value => !value.isEmpty
  | .termOrder, value => (TermOrder.ofText value).isOk

def set (arguments : Arguments) (setting : Setting) (value : Text) : Except UsageError Arguments :=
  if (arguments.value? setting).isSome then .error .conflict
  else if accepts setting value then
    .ok { arguments with settings := arguments.settings ++ [(setting, value)] }
  else .error .invalidValue

def setOntologies (arguments : Arguments) (paths : List Path) : Except UsageError Arguments :=
  if !arguments.ontologies.isEmpty then .error .conflict
  else if paths.any (·.isEmpty) then .error .invalidValue
  else .ok { arguments with ontologies := paths }

def check (arguments : Arguments) : Except UsageError Arguments :=
  if arguments.isOn .quiet && arguments.isOn .verbose then .error .conflict
  else if arguments.isOn .version then .ok arguments
  else if (arguments.value? .outputDirectory).isNone || arguments.ontologies.isEmpty then
    .error .missingArgument
  else .ok arguments

end Arguments

inductive Pending
  | nothing
  | setting (setting : Setting) (value : Option Text)
  | files (paths : List Path)
deriving DecidableEq, Repr

structure Progress where
  arguments : Arguments
  pending : Pending
  filesOnly : Bool
deriving DecidableEq, Repr

namespace Progress

def settle (progress : Progress) : Except UsageError Progress := do
  let arguments ← match progress.pending with
    | .nothing => Except.ok progress.arguments
    | .setting _ none => .error .invalidValue
    | .setting setting (some value) => progress.arguments.set setting value
    | .files paths => progress.arguments.setOntologies paths
  return { progress with arguments, pending := .nothing }

def turnOn (progress : Progress) (switch : Switch) : Except UsageError Progress := do
  let settled ← progress.settle
  return { settled with arguments := ← settled.arguments.turnOn switch }

def askForHelp (progress : Progress) : Except UsageError Progress := do
  let _ ← progress.settle
  .error .helpWanted

def beginSetting (progress : Progress) (setting : Setting) (attached : Option Text) :
    Except UsageError Progress := do
  let settled ← progress.settle
  match attached with
  | some value => return { settled with arguments := ← settled.arguments.set setting value }
  | none => return { settled with pending := .setting setting none }

def takeName (progress : Progress) (name : Text) (attached : Option Text) : Except UsageError Progress :=
  match ofName? name, attached with
  | none, _ => .error .unknownArgument
  | some (.setting setting), _ => progress.beginSetting setting attached
  | some _, some _ => .error .unwantedValue
  | some (.switch switch), none => progress.turnOn switch
  | some .help, none => progress.askForHelp

/-- What stands behind the letter of a setting is its value; an equals sign before it does not count. -/
def attachedTo : Text → Option Text
  | [] => none
  | '=' :: value => some value
  | value => some value

def takeLetters (progress : Progress) : Text → Except UsageError Progress
  | [] => .ok progress
  | letter :: rest =>
      match ofLetter? letter with
      | none => .error .unknownArgument
      | some (.setting setting) => progress.beginSetting setting (attachedTo rest)
      | some (.switch switch) => do (← progress.turnOn switch).takeLetters rest
      | some .help => progress.askForHelp

def takeFile (progress : Progress) (path : Path) : Except UsageError Progress :=
  match progress.pending with
  | .files paths => .ok { progress with pending := .files (paths ++ [path]) }
  | _ => do return { (← progress.settle) with pending := .files [path] }

def takePlain (progress : Progress) (argument : Text) : Except UsageError Progress :=
  match progress.pending with
  | .setting setting none => .ok { progress with pending := .setting setting (some argument) }
  | _ => progress.takeFile argument

def splitName (argument : Text) : Text × Option Text :=
  match argument.dropWhile (· != '=') with
  | [] => (argument, none)
  | _ :: value => (argument.takeWhile (· != '='), some value)

def take (progress : Progress) (argument : Text) : Except UsageError Progress :=
  if progress.filesOnly then progress.takeFile argument
  else match argument with
    | ['-', '-'] => .ok { progress with filesOnly := true }
    | '-' :: '-' :: rest => progress.takeName (splitName rest).1 (splitName rest).2
    | '-' :: letter :: rest => progress.takeLetters (letter :: rest)
    | _ => progress.takePlain argument

end Progress

def Arguments.ofList (arguments : List Text) : Except UsageError Arguments := do
  let progress ← arguments.foldlM Progress.take ⟨.empty, .nothing, false⟩
  (← progress.settle).arguments.check

end Termbase.CommandLine
