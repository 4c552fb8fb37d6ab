import Termbase.Dictionary.Json
import Termbase.FileTree.WriteService

/-! Where a dictionary lives between two starts: in memory, or in a JSON file. -/

namespace Termbase

/-- A store in memory counts how often it was written. -/
inductive Store
  | memory (dictionary : Dictionary) (saves : Nat)
  | file (tree : FileTree) (path : Path)

namespace Store

/-- A missing file holds an empty dictionary. -/
def loadFile (tree : FileTree) (path : Path) : Except CoderError Dictionary :=
  match tree.lookForFile path with
  | .error error => .error (.file error)
  | .ok false => .ok .empty
  | .ok true =>
      match tree.readText path with
      | .error error => .error (.file error)
      | .ok text => Dictionary.ofJson text

def load : Store → Except CoderError Dictionary
  | .memory dictionary _ => .ok dictionary
  | .file tree path => loadFile tree path

def saveBy (service : FileTree.WriteService) (dictionary : Dictionary) : Store → Except CoderError Unit × Store
  | .memory _ saves => (.ok (), .memory dictionary (saves + 1))
  | .file tree path =>
      match tree.writeAtomicallyBy service path (Utf8.encode dictionary.toJson) with
      | (.ok _, tree) => (.ok (), .file tree path)
      | (.error error, tree) => (.error (.file error), .file tree path)

def save (dictionary : Dictionary) (store : Store) : Except CoderError Unit × Store :=
  store.saveBy .smooth dictionary

end Store

end Termbase
