import Termbase.CommandLine.Arguments
import Termbase.Generation

/-! The command line as a whole: from arguments and a file tree to what is printed, the exit code, and the
file tree afterwards. -/

namespace Termbase.CommandLine

def Arguments.plan (arguments : Arguments) : Except UsageError GenerationPlan :=
  match arguments.value? .outputDirectory, arguments.ontologies with
  | none, _ | _, [] => .error .missingArgument
  | some outputDirectory, ontologies => do
      let termOrder ← match arguments.value? .termOrder with
        | none => Except.ok TermOrder.name
        | some text => (TermOrder.ofText text).mapError fun _ => .invalidValue
      return {
        ontologies
        outputDirectory
        header := arguments.value? .header
        force := arguments.isOn .force
        termOrder
        namespaceTerm := arguments.isOn .namespaceTerm
        registerIn := arguments.value? .registerIn }

inductive Output
  | nothing
  | help
  | version (named : Bool)
deriving DecidableEq, Repr

def programName : String := "rdfvocab-vocabgen"

inductive Failure
  | usage (error : UsageError)
  | generation (error : GenerationError)
deriving DecidableEq, Repr

def Failure.message : Failure → String
  | .usage error => error.message
  | .generation error => error.message

structure Session where
  exitCode : Nat
  output : Output
  tree : FileTree
  events : List Event
  failure : Option Failure

namespace Session

def refused (tree : FileTree) (error : UsageError) : Session :=
  match error with
  | .helpWanted => ⟨0, .help, tree, [], none⟩
  | _ => ⟨2, .nothing, tree, [], some (.usage error)⟩

def generated (run : Generation.Run Unit) : Session :=
  match run.outcome with
  | .ok _ => ⟨0, .nothing, run.tree, run.events, none⟩
  | .error error => ⟨1, .nothing, run.tree, run.events, some (.generation error)⟩

end Session

def run (tree : FileTree) (given : List Text) : Session :=
  match Arguments.ofList given with
  | .error error => .refused tree error
  | .ok arguments =>
      if arguments.isOn .version then ⟨0, .version !(arguments.isOn .quiet), tree, [], none⟩
      else match arguments.plan with
        | .error error => .refused tree error
        | .ok plan => .generated (Generation.run plan tree)

end Termbase.CommandLine
