import Termbase.Iri.Split
import Termbase.Iri.Syntax

/-! Paths as text: their components, and the parts of a file name. -/

namespace Termbase

abbrev Path := Text

namespace Path

def isRooted (path : Path) : Bool := path.head? == some '/'

def steps (path : Path) : List Text := (Iri.pieces '/' path).filter (!·.isEmpty)

/-- The steps that matter for comparing two paths: a single dot counts at the beginning only. -/
def components (path : Path) : List Text :=
  match path.steps with
  | ['.'] :: rest =>
      (if path.isRooted then [] else [['.']]) ++ rest.filter (· != ['.'])
  | steps => steps.filter (· != ['.'])

def same (left right : Path) : Bool :=
  left.isRooted == right.isRooted && left.components == right.components

def fileName? (path : Path) : Option Text :=
  match path.components.getLast? with
  | some name => if name == ['.'] || name == ['.', '.'] then none else some name
  | none => none

/-- A file name before its last dot and the extension after it; a dot at the beginning does not count. -/
def splitExtension (name : Text) : Text × Option Text :=
  match splitAfterLast? '.' name with
  | some (before, extension) =>
      if before.length ≤ 1 then (name, none) else (before.dropLast, some extension)
  | none => (name, none)

def fileStem? (path : Path) : Option Text := path.fileName?.map fun name => (splitExtension name).1

def extension? (path : Path) : Option Text := path.fileName?.bind fun name => (splitExtension name).2

def join (directory path : Path) : Path :=
  if path.isRooted || directory.isEmpty then path
  else if directory.getLast? == some '/' then directory ++ path
  else directory ++ '/' :: path

def ofComponents (rooted : Bool) (components : List Text) : Path :=
  (if rooted then ['/'] else []) ++ Text.join ['/'] components

def parent? (path : Path) : Option Path :=
  if path.components.isEmpty then none
  else some (ofComponents path.isRooted path.components.dropLast)

/-- Where files beside the path are created: its parent, or here if that is missing or empty. -/
def directory (path : Path) : Path :=
  match path.parent? with
  | some parent => if parent.isEmpty then ['.'] else parent
  | none => ['.']

end Path

end Termbase
