import Termbase.CommandLine

/-! The program: it loads the files that its arguments name into a file tree, runs the command line on it,
and writes back what has changed. -/

namespace Termbase.Program

def version : String := "unknown"

def help : String :=
  String.intercalate "\n"
    ["Generates vocabulary modules from ontology files", "",
      "Usage: " ++ CommandLine.programName ++ " [OPTIONS] -O <OUT_DIR> <ONTOLOGY_FILE>...", "",
      "  -V, --version                     Print version information and exit",
      "  -q, --quiet                       Only log warnings and errors",
      "  -v, --verbose                     Also log debug messages",
      "  -f, --force                       Overwrite already existing vocabulary modules",
      "  -H, --header <TEXT>               Text to put on top of each generated module",
      "  -O, --output-directory <OUT_DIR>  Directory to write the vocabulary modules to",
      "  -o, --term-order <ORDER>          Order of the terms in each module: name or source",
      "  -n, --namespace-term              Make the namespace IRI itself the first term",
      "  -r, --register-in <LIB_RS>        Declare each generated module in this file",
      "  -h, --help                        Print help", ""]

def locate (tree : FileTree) (path : Path) : Location :=
  path.steps.foldl
    (fun location step =>
      if step == ['.'] then location
      else if step == ['.', '.'] then location.dropLast
      else location ++ [step])
    (if path.isRooted then [] else tree.workingDirectory)

def putDeeply (tree : FileTree) (location : Location) (entry : Entry) : FileTree :=
  ((List.range location.length).drop 1).foldl
    (fun tree depth => tree.put (location.take depth) .directory) tree |>.put location entry

/-- Loads what a path names. What cannot be read as a file but is there counts as a directory. -/
def load (tree : FileTree) (path : Path) : IO FileTree := do
  match ← (IO.FS.readBinFile (String.ofList path)).toBaseIO with
  | .ok content => return putDeeply tree (locate tree path) (.file content.toList)
  | .error (.noFileOrDirectory ..) => return tree
  | .error _ => return putDeeply tree (locate tree path) .directory

def loadAll (tree : FileTree) (paths : List Path) : IO FileTree := paths.foldlM load tree

def targets (plan : GenerationPlan) (tree : FileTree) : List Path :=
  plan.ontologies.filterMap fun path =>
    ((Generation.draft .plain plan tree [] path).toOption).map (·.path)

def loadPlan (tree : FileTree) (plan : GenerationPlan) : IO FileTree := do
  let tree ← loadAll tree (plan.outputDirectory :: plan.ontologies ++ plan.registerIn.toList)
  loadAll tree (targets plan tree)

def pathOf (location : Location) : String := String.ofList ('/' :: Text.join ['/'] location)

def store (before : FileTree) (found : Location × Entry) : IO Unit := do
  if before.entryAt? found.1 == some found.2 then return ()
  match found.2 with
  | .directory => IO.FS.createDirAll (pathOf found.1)
  | .file content =>
      let temporary := pathOf found.1 ++ ".tmp"
      IO.FS.writeBinFile temporary (ByteArray.mk content.toArray)
      IO.FS.rename temporary (pathOf found.1)

def printOutput : CommandLine.Output → IO Unit
  | .nothing => return ()
  | .help => IO.print help
  | .version named => IO.println ((if named then CommandLine.programName ++ " " else "") ++ version)

def run (given : List Text) : IO UInt32 := do
  let directory := (← IO.currentDir).toString.toList
  let empty : FileTree := putDeeply ⟨[], []⟩ (locate ⟨[], []⟩ directory) .directory
  let start : FileTree := { empty with workingDirectory := locate empty directory }
  let tree ← match CommandLine.Arguments.ofList given with
    | .error _ => pure start
    | .ok arguments =>
        match arguments.plan with
        | .error _ => pure start
        | .ok plan => loadPlan start plan
  let session := CommandLine.run tree given
  session.tree.entries.forM (store tree)
  session.events.forM fun event => IO.eprintln event.render
  session.failure.forM fun error => IO.eprintln error.message
  printOutput session.output
  return UInt32.ofNat session.exitCode

end Termbase.Program

def main (arguments : List String) : IO UInt32 := Termbase.Program.run (arguments.map String.toList)
