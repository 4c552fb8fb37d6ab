import Termbase.FileTree

/-! Replacing a file as a whole. The content goes into a new file beside the target, which then takes the
target's place, so no state in between shows a part of it. -/

namespace Termbase.FileTree

def longestName (tree : FileTree) : Nat :=
  (tree.entries.flatMap fun entry => entry.1.map List.length).foldl max 0

/-- A name that no entry has and no step of the path: it is longer than all of them. -/
def freshName (tree : FileTree) (path : Path) : Text :=
  ".tmp".toList ++ List.replicate (max tree.longestName path.length + 1) 'x'

/-- The steps of a write that the system may refuse although the tree admits them. -/
inductive WriteStep
  | create | fill | flush | rename
deriving DecidableEq, Repr

/-- How the system serves a write: the name that it gives to the temporary file, how much of the content is in
that file after each of the parts that go into it, and whether it performs a step. -/
structure WriteCourse where
  name : Text
  lengths : List Nat
  serve : WriteStep → Except FileError Unit

/-- Nothing is refused, and the content goes in as a whole. -/
def WriteCourse.smooth (name : Text) : WriteCourse := ⟨name, [], fun _ => .ok ()⟩

/-- The states that a tree passes through, the first and the last one included, and how it ended. -/
structure WriteRun where
  first : FileTree
  between : List FileTree
  last : FileTree
  outcome : Except FileError Unit

def findDirectory (tree : FileTree) (path : Path) : Except FileError Location := do
  match ← tree.find path with
  | (location, .directory) => .ok location
  | (_, .file _) => .error .notADirectory

/-- Writes through a temporary file. When a step fails, the temporary file is removed. -/
def atomicWriteBy (tree : FileTree) (course : WriteCourse) (path : Path) (content : List UInt8) : WriteRun :=
  match (do course.serve .create; tree.findDirectory path.directory) with
  | .error error => ⟨tree, [], tree, .error error⟩
  | .ok directory =>
      let temporary := directory ++ [course.name]
      let created := tree.put temporary (.file [])
      let partly := course.lengths.map fun length => created.put temporary (.file (content.take length))
      match course.serve .fill with
      | .error error =>
          ⟨tree, created :: partly, (partly.getLast?.getD created).erase temporary, .error error⟩
      | .ok _ =>
          let filled := created.put temporary (.file content)
          let between := created :: (partly ++ [filled])
          match (do course.serve .flush; course.serve .rename; filled.move temporary path) with
          | .error error => ⟨tree, between, filled.erase temporary, .error error⟩
          | .ok moved => ⟨tree, between, moved, .ok ()⟩

def atomicWrite (tree : FileTree) (path : Path) (content : List UInt8) : WriteRun :=
  tree.atomicWriteBy (.smooth (tree.freshName path)) path content

end Termbase.FileTree
