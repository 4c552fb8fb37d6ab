import Termbase.FileTree.Path
import Termbase.Text.Utf8

/-! A tree of files as a value, with the operations and failures of a file system. -/

namespace Termbase

abbrev Location := List Text

inductive Entry
  | directory
  | file (content : List UInt8)
deriving DecidableEq, Repr

def Entry.isFile : Entry → Bool
  | .file _ => true
  | .directory => false

def Entry.isDirectory : Entry → Bool
  | .directory => true
  | .file _ => false

inductive FileError
  | notFound
  | notADirectory
  | isADirectory
  | alreadyExists
  | busy
  | invalidPath
  | nameTooLong
  | invalidData
  | shouldBeAFile (path : Path)
  | shouldBeADirectory (path : Path)
deriving DecidableEq, Repr

def FileError.message : FileError → String
  | .notFound => "No such file or directory"
  | .notADirectory => "Not a directory"
  | .isADirectory => "Is a directory"
  | .alreadyExists => "File exists"
  | .busy => "Device or resource busy"
  | .invalidPath => "file name contained an unexpected NUL byte"
  | .nameTooLong => "File name too long"
  | .invalidData => "stream did not contain valid UTF-8"
  | .shouldBeAFile path =>
      s!"Should be a file, but is not: '{String.ofList path}' - possible solution: delete it"
  | .shouldBeADirectory path =>
      "Should be an output directory, but is not a directory: " ++
        s!"'{String.ofList path}' - possible solution: delete it"

/-- The entries in order of creation. The root is a directory without an entry; relative paths start at the
working directory. -/
structure FileTree where
  workingDirectory : Location
  entries : List (Location × Entry)
deriving DecidableEq, Repr

namespace FileTree

def entryAt? (tree : FileTree) (location : Location) : Option Entry :=
  if location.isEmpty then some .directory else tree.entries.lookup location

def isDirectory (tree : FileTree) (location : Location) : Bool :=
  tree.entryAt? location == some .directory

def put (tree : FileTree) (location : Location) (entry : Entry) : FileTree :=
  if tree.entries.any (·.1 == location) then
    { tree with
      entries := tree.entries.map fun old => if old.1 == location then (location, entry) else old }
  else { tree with entries := tree.entries ++ [(location, entry)] }

def erase (tree : FileTree) (location : Location) : FileTree :=
  { tree with entries := tree.entries.filter (·.1 != location) }

def isTooLong (name : Text) : Bool := 255 < (Utf8.encode name).length

def walk (tree : FileTree) (location : Location) : List Text → Except FileError Location
  | [] => .ok location
  | step :: rest =>
      if !tree.isDirectory location then .error .notADirectory
      else if step == ['.'] then tree.walk location rest
      else if step == ['.', '.'] then tree.walk location.dropLast rest
      else if isTooLong step then .error .nameTooLong
      else if (tree.entryAt? (location ++ [step])).isNone then .error .notFound
      else tree.walk (location ++ [step]) rest

def start (tree : FileTree) (path : Path) : Except FileError Location :=
  if path.contains '\x00' then .error .invalidPath
  else if path.isEmpty then .error .notFound
  else if 4095 < (Utf8.encode path).length then .error .nameTooLong
  else .ok (if path.isRooted then [] else tree.workingDirectory)

def endsInSlash (path : Path) : Bool := path.getLast? == some '/'

/-- The location and the entry that a path names. Only a directory may be followed by a slash. -/
def find (tree : FileTree) (path : Path) : Except FileError (Location × Entry) := do
  let location ← tree.walk (← tree.start path) path.steps
  match tree.entryAt? location with
  | none => .error .notFound
  | some entry =>
      if endsInSlash path && entry.isFile then .error .notADirectory else .ok (location, entry)

def exists? (tree : FileTree) (path : Path) : Except FileError Bool :=
  match tree.find path with
  | .ok _ => .ok true
  | .error .notFound => .ok false
  | .error error => .error error

def readFile (tree : FileTree) (path : Path) : Except FileError (List UInt8) := do
  match ← tree.find path with
  | (_, .file content) => .ok content
  | (_, .directory) => .error .isADirectory

def readText (tree : FileTree) (path : Path) : Except FileError Text := do
  match Utf8.decode (← tree.readFile path) with
  | .ok text => .ok text
  | .error _ => .error .invalidData

def findParent (tree : FileTree) (path : Path) : Except FileError (Location × Option Text) := do
  let directory ← tree.walk (← tree.start path) path.steps.dropLast
  if tree.isDirectory directory then .ok (directory, path.steps.getLast?) else .error .notADirectory

def isIdleStep (step : Text) : Bool := step == ['.'] || step == ['.', '.']

def createDirectory (tree : FileTree) (path : Path) : Except FileError FileTree := do
  match ← tree.findParent path with
  | (_, none) => .error .alreadyExists
  | (directory, some name) =>
      if isIdleStep name then .error .alreadyExists
      else if isTooLong name then .error .nameTooLong
      else if (tree.entryAt? (directory ++ [name])).isSome then .error .alreadyExists
      else .ok (tree.put (directory ++ [name]) .directory)

def namesDirectory (tree : FileTree) (path : Path) : Bool :=
  match tree.find path with
  | .ok (_, .directory) => true
  | _ => false

def orExisting (tree : FileTree) (path : Path) (created : Except FileError FileTree) :
    Except FileError Unit × FileTree :=
  match created with
  | .ok changed => (.ok (), changed)
  | .error error => (if tree.namesDirectory path then .ok () else .error error, tree)

/-- Creates the directory of a path after the directories that lead there; the count bounds how many. What
was created before a failure stays. -/
def createDirectoriesWithin : Nat → FileTree → Path → Except FileError Unit × FileTree
  | 0, tree, _ => (.error .notFound, tree)
  | count + 1, tree, path =>
      if path.isEmpty then (.ok (), tree)
      else match tree.createDirectory path with
        | .error .notFound =>
            match path.parent? with
            | none => (.error .notFound, tree)
            | some parent =>
                match createDirectoriesWithin count tree parent with
                | (.error error, tree) => (.error error, tree)
                | (.ok _, tree) => tree.orExisting path (tree.createDirectory path)
        | created => tree.orExisting path created

def createDirectories (tree : FileTree) (path : Path) : Except FileError Unit × FileTree :=
  createDirectoriesWithin (path.components.length + 1) tree path

def move (tree : FileTree) (source : Location) (path : Path) : Except FileError FileTree := do
  match ← tree.findParent path with
  | (_, none) => .error .busy
  | (directory, some name) =>
      if isIdleStep name then .error .busy
      else if isTooLong name then .error .nameTooLong
      else if endsInSlash path then .error .notADirectory
      else if tree.isDirectory (directory ++ [name]) then .error .isADirectory
      else match tree.entryAt? source with
        | none => .error .notFound
        | some entry => .ok ((tree.erase source).put (directory ++ [name]) entry)

def removeFile (tree : FileTree) (path : Path) : Except FileError FileTree := do
  match ← tree.find path with
  | (location, .file _) => .ok (tree.erase location)
  | (_, .directory) => .error .isADirectory

def lookForFile (tree : FileTree) (path : Path) : Except FileError Bool := do
  match tree.find path with
  | .ok (_, .file _) => .ok true
  | .ok (_, .directory) => .error (.shouldBeAFile path)
  | .error .notFound => .ok false
  | .error error => .error error

def ensureDirectory (tree : FileTree) (path : Path) : Except FileError Bool × FileTree :=
  match tree.find path with
  | .ok (_, .directory) => (.ok false, tree)
  | .ok (_, .file _) => (.error (.shouldBeADirectory path), tree)
  | .error .notFound =>
      let (outcome, created) := tree.createDirectories path
      (outcome.map fun _ => true, created)
  | .error error => (.error error, tree)

end FileTree

end Termbase
