import Termbase.FileTree.WriteService
import Termbase.Ontology.Content
import Termbase.Ontology.Outline
import Termbase.TermModule
import Termbase.TermModule.Registration

/-! Generating modules from ontology files: one module for each ontology, written into one directory, and
declared in a further file if one is given. -/

namespace Termbase

structure GenerationPlan where
  ontologies : List Path
  outputDirectory : Path
  header : Option Text
  force : Bool
  termOrder : TermOrder
  namespaceTerm : Bool
  registerIn : Option Path
deriving DecidableEq, Repr

inductive GenerationError
  | file (error : FileError)
  | malformed
  | outline (error : OutlineError)
  | module (error : ModuleError)
  | noName (ontology : Path)
  | sameOutput (path : Path)
deriving DecidableEq, Repr

def GenerationError.message : GenerationError → String
  | .file error => error.message
  | .malformed => "The RDF input is malformed"
  | .outline error => error.message
  | .module error => error.message
  | .noName ontology =>
      s!"For input file '{String.ofList ontology}', we were unable to find a preferred namespace prefix; " ++
        "we checked within the ontology data, and considered the input file-name."
  | .sameOutput path =>
      "Two (or more) input ontologies result in the same output file name: " ++
        s!"{String.ofList path}; please change that."

namespace Generation

structure Draft where
  name : Text
  path : Path
  source : Text
  termCount : Nat
deriving DecidableEq, Repr

def orFile (result : Except FileError α) : Except GenerationError α :=
  match result with
  | .ok value => .ok value
  | .error error => .error (.file error)

/-- What a plan does not settle: how the writes are served, and in which order the labels of each ontology are gone
through. -/
structure Host where
  writes : FileTree.WriteService
  labelOrder : Path → Rdf.LabelOrder

def Host.plain : Host := ⟨.smooth, fun _ => .declared⟩

def Host.read (host : Host) (path : Path) (document : List UInt8) : Rdf.Reading :=
  ((Rdf.Format.ofPath path).read document).arranged (host.labelOrder path)

def readContent (host : Host) (path : Path) (document : List UInt8) : Except GenerationError Ontology.Content :=
  match Ontology.Content.ofReading? (host.read path document) with
  | some content => .ok content
  | none => .error .malformed

def outlineOf (plan : GenerationPlan) (content : Ontology.Content) : Except GenerationError Outline :=
  match content.graph.outline plan.termOrder with
  | .ok outline => .ok outline
  | .error error => .error (.outline error)

/-- A module is named as the ontology says, or else like the ontology's file. -/
def nameOf (path : Path) (outline : Outline) : Except GenerationError Text :=
  match outline.label.or path.fileStem? with
  | some name => .ok name
  | none => .error (.noName path)

def sourceOf (plan : GenerationPlan) (outline : Outline) : Except GenerationError Text :=
  match TermModule.render plan.header plan.namespaceTerm outline with
  | .ok source => .ok source
  | .error error => .error (.module error)

def draft (host : Host) (plan : GenerationPlan) (tree : FileTree) (written : List Path) (path : Path) :
    Except GenerationError Draft := do
  let document ← orFile (tree.readFile path)
  let content ← readContent host path document
  let outline ← outlineOf plan content
  let name ← nameOf path outline
  let source ← sourceOf plan outline
  let target := Path.join plan.outputDirectory (name ++ ".rs".toList)
  if written.any (Path.same target) then .error (.sameOutput target)
  else return ⟨name, target, source, outline.entries.length⟩

structure Run (α : Type) where
  outcome : Except GenerationError α
  tree : FileTree
  events : List Event

def write (host : Host) (plan : GenerationPlan) (tree : FileTree) (module : Draft) : Run Unit :=
  let existing := if plan.force then .ok false else tree.lookForFile module.path
  match existing with
  | .error error => ⟨.error (.file error), tree, []⟩
  | .ok true =>
      ⟨.ok (), tree, [.warning ("Keeping existing file " ++
        s!"'{String.ofList module.path}'; use --force to overwrite it")]⟩
  | .ok false =>
      let (outcome, changed) := tree.writeAtomicallyBy host.writes module.path (Utf8.encode module.source)
      ⟨orFile outcome, changed,
        [.info s!"Writing {module.termCount} terms to '{String.ofList module.path}'"]⟩

def registeredEvents (module : Draft) (path : Path) (added : Bool) : List Event :=
  if added then
    [.info s!"Declared module '{String.ofList module.name}' in '{String.ofList path}'"]
  else []

def register (host : Host) (plan : GenerationPlan) (tree : FileTree) (module : Draft) : Run Unit :=
  match plan.registerIn with
  | none => ⟨.ok (), tree, []⟩
  | some path =>
      match TermModule.registerBy host.writes tree path module.name with
      | (.ok added, changed) => ⟨.ok (), changed, registeredEvents module path added⟩
      | (.error error, changed) => ⟨.error (.file error), changed, []⟩

def draftEvents (host : Host) (tree : FileTree) (path : Path) : List Event :=
  match tree.readFile path with
  | .error _ => []
  | .ok document =>
      let reading := host.read path document
      Ontology.Content.events reading ++
        match Ontology.Content.ofReading? reading with
        | none => []
        | some content => content.graph.outlineEvents

def generateOne (host : Host) (plan : GenerationPlan) (tree : FileTree) (written : List Path) (path : Path) :
    Run Path :=
  let noted := draftEvents host tree path
  match draft host plan tree written path with
  | .error error => ⟨.error error, tree, noted⟩
  | .ok module =>
      let writing := write host plan tree module
      match writing.outcome with
      | .error error => ⟨.error error, writing.tree, noted ++ writing.events⟩
      | .ok _ =>
          let registering := register host plan writing.tree module
          ⟨registering.outcome.map fun _ => module.path, registering.tree,
            noted ++ writing.events ++ registering.events⟩

def generateAll (host : Host) (plan : GenerationPlan) (tree : FileTree) (written : List Path) :
    List Path → Run Unit
  | [] => ⟨.ok (), tree, []⟩
  | path :: rest =>
      let one := generateOne host plan tree written path
      match one.outcome with
      | .error error => ⟨.error error, one.tree, one.events⟩
      | .ok target =>
          let others := generateAll host plan one.tree (written ++ [target]) rest
          { others with events := one.events ++ others.events }

def runOn (host : Host) (plan : GenerationPlan) (tree : FileTree) : Run Unit :=
  match tree.ensureDirectory plan.outputDirectory with
  | (.error error, prepared) => ⟨.error (.file error), prepared, []⟩
  | (.ok _, prepared) => generateAll host plan prepared [] plan.ontologies

def run (plan : GenerationPlan) (tree : FileTree) : Run Unit := runOn .plain plan tree

end Generation

end Termbase
