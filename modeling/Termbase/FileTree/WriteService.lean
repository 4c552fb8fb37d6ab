import Termbase.FileTree.AtomicWrite

/-! How the writes into a tree are served: each gets a course, and the name of its temporary file is free. -/

namespace Termbase.FileTree

variable {tree : FileTree} {path : Path}

theorem length_le_longestName {entry : Location × Entry} (member : entry ∈ tree.entries) {name : Text}
    (step : name ∈ entry.1) : name.length ≤ tree.longestName := by
  have listed : name.length ∈ tree.entries.flatMap fun entry => entry.1.map List.length :=
    List.mem_flatMap.mpr ⟨entry, member, List.mem_map_of_mem step⟩
  rw [longestName, List.foldl_max]
  exact Nat.le_trans (List.le_max?_getD_of_mem listed) (Nat.le_max_right _ _)

theorem length_le_of_mem_pieces {delimiter : Char} {text piece : Text}
    (member : piece ∈ Iri.pieces delimiter text) : piece.length ≤ text.length := by
  induction text generalizing piece with
  | nil =>
      obtain rfl : piece = [] := List.mem_singleton.mp member
      exact Nat.le_refl _
  | cons c rest ih =>
      simp only [Iri.pieces] at member
      split at member
      next =>
        rcases List.mem_cons.mp member with rfl | later
        · exact Nat.zero_le _
        · exact Nat.le_succ_of_le (ih later)
      next =>
        split at member
        next =>
          obtain rfl : piece = [c] := List.mem_singleton.mp member
          exact Nat.succ_le_succ (Nat.zero_le _)
        next first others split =>
          rw [split] at ih
          rcases List.mem_cons.mp member with rfl | later
          · exact Nat.succ_le_succ (ih List.mem_cons_self)
          · exact Nat.le_succ_of_le (ih (List.mem_cons_of_mem first later))

/-- The name of the temporary file is free: nothing is there or below, and the path does not mention it. -/
structure WriteCourse.IsFresh (course : WriteCourse) (tree : FileTree) (path : Path) : Prop where
  free : ∀ directory, tree.findDirectory path.directory = .ok directory →
    ∀ entry ∈ tree.entries, ¬ directory ++ [course.name] <+: entry.1
  unused : course.name ∉ path.steps

theorem WriteCourse.isFresh_of_name {course : WriteCourse} (named : course.name = tree.freshName path) :
    course.IsFresh tree path := by
  have long : max tree.longestName path.length < course.name.length := by
    simp only [named, freshName, List.length_append, List.length_replicate]
    omega
  constructor
  · intro directory _ entry member below
    have bound : course.name.length ≤ tree.longestName := length_le_longestName member (below.subset (by simp))
    omega
  · intro mentioned
    have bound : course.name.length ≤ path.length := length_le_of_mem_pieces (List.mem_filter.mp mentioned).1
    omega

/-- A course for every write. It may be any course whose temporary file is fresh, and another one for each tree, path
and content. -/
structure WriteService where
  course : FileTree → Path → List UInt8 → WriteCourse
  fresh : ∀ tree path content, (course tree path content).IsFresh tree path

namespace WriteService

def smooth : WriteService :=
  ⟨fun tree path _ => .smooth (tree.freshName path), fun _ _ _ => WriteCourse.isFresh_of_name rfl⟩

/-- One step is always refused. -/
def refusing (step : WriteStep) (error : FileError) : WriteService :=
  ⟨fun tree path _ => ⟨tree.freshName path, [], fun other => if other = step then .error error else .ok ()⟩,
    fun _ _ _ => WriteCourse.isFresh_of_name rfl⟩

/-- No step of the write is refused. -/
def Serves (service : WriteService) (tree : FileTree) (path : Path) (content : List UInt8) : Prop :=
  ∀ step, (service.course tree path content).serve step = .ok ()

def ServesAll (service : WriteService) : Prop := ∀ tree path content, service.Serves tree path content

theorem servesAll_smooth : smooth.ServesAll := fun _ _ _ _ => rfl

end WriteService

def writeAtomicallyBy (tree : FileTree) (service : WriteService) (path : Path) (content : List UInt8) :
    Except FileError Unit × FileTree :=
  let run := tree.atomicWriteBy (service.course tree path content) path content
  (run.outcome, run.last)

def writeAtomically (tree : FileTree) (path : Path) (content : List UInt8) :
    Except FileError Unit × FileTree :=
  tree.writeAtomicallyBy .smooth path content

end Termbase.FileTree
