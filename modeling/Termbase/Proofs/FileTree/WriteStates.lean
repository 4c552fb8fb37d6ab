import Termbase.Proofs.FileTree.Replacement

/-! The states of a tree during a write. The temporary file is in nobody's way: with it every path of the write leads
where it led before. So whatever step is refused, and in whatever state one looks, the target is as it was or has the
whole content. -/

namespace Termbase.FileTree

section Temporary

variable {tree : FileTree} {path : Path} {directory location : Location} {course : WriteCourse}

theorem isRooted_of_steps_eq_nil (nonempty : path ≠ []) (noSteps : path.steps = []) : path.isRooted = true := by
  cases path with
  | nil => exact absurd rfl nonempty
  | cons c rest =>
      by_cases slash : c = '/'
      · subst slash
        rfl
      · -- Anything but a slash begins a step.
        simp only [Path.steps, Iri.pieces, slash, if_false] at noSteps
        split at noSteps <;> simp at noSteps

theorem start_eq_nil {root : Location} (started : tree.start path = .ok root) (noSteps : path.steps = []) :
    root = [] := by
  unfold start at started
  split at started
  next => cases started
  next =>
    split at started
    next => cases started
    next nonempty =>
      split at started
      next => cases started
      next =>
        rw [isRooted_of_steps_eq_nil (by simpa using nonempty) noSteps] at started
        exact (Except.ok.inj started).symm

theorem exists_mem_of_entryAt? {entry : Entry} (proper : location ≠ [])
    (there : tree.entryAt? location = some entry) : ∃ old ∈ tree.entries, old.1 = location := by
  have named : location.isEmpty = false := by simpa using proper
  simp only [entryAt?, named, Bool.false_eq_true, if_false] at there
  obtain ⟨before, after, shape, _⟩ := List.lookup_eq_some_iff.mp there
  exact ⟨(location, entry), by rw [shape]; simp, rfl⟩

theorem not_isDirectory_of_free (fresh : course.IsFresh tree path)
    (beside : tree.findDirectory path.directory = .ok directory) (rest : Location) :
    tree.isDirectory (directory ++ [course.name] ++ rest) = false := by
  rw [Bool.eq_false_iff]
  intro isDirectory
  obtain ⟨old, member, same⟩ := exists_mem_of_entryAt? (by simp) (isDirectory_iff.mp isDirectory)
  exact fresh.free directory beside old member (same ▸ List.prefix_append _ _)

theorem not_leads_temporary (fresh : course.IsFresh tree path)
    (beside : tree.findDirectory path.directory = .ok directory) :
    ¬ tree.Leads path (directory ++ [course.name]) := by
  intro leads
  generalize reached : directory ++ [course.name] = temporary at leads
  cases leads with
  | start started noSteps =>
      rw [start_eq_nil started noSteps] at reached
      simp at reached
  | @step _ parent before step started steps walked arrived =>
      unfold destination at reached
      split at reached
      next =>
        have free := not_isDirectory_of_free fresh beside []
        rw [List.append_nil, reached, arrived] at free
        cases free
      next =>
        split at reached
        next =>
          rcases List.eq_nil_or_concat parent with rfl | ⟨place, name, rfl⟩
          · simp at reached
          · rw [List.concat_eq_append] at reached arrived
            rw [List.dropLast_concat] at reached
            have free := not_isDirectory_of_free fresh beside [name]
            rw [reached, arrived] at free
            cases free
        next =>
          obtain ⟨_, same⟩ := List.append_inj' reached rfl
          rw [List.cons.injEq] at same
          exact fresh.unused (by rw [steps, same.1]; simp)

theorem sameDirectories_temporary (fresh : course.IsFresh tree path)
    (beside : tree.findDirectory path.directory = .ok directory) (part : List UInt8) :
    SameDirectories tree (tree.put (directory ++ [course.name]) (.file part)) := by
  have free := not_isDirectory_of_free fresh beside []
  rw [List.append_nil] at free
  exact sameDirectories_put (by simp) free

theorem walk_put_of_unused {name : Text} {part : List UInt8}
    (same : SameDirectories tree (tree.put (directory ++ [name]) (.file part))) {steps : List Text}
    (unused : name ∉ steps) :
    (tree.put (directory ++ [name]) (.file part)).walk location steps = tree.walk location steps := by
  induction steps generalizing location with
  | nil => rfl
  | cons step steps ih =>
      rw [List.mem_cons, not_or] at unused
      have differs : location ++ [step] ≠ directory ++ [name] := by
        intro reached
        obtain ⟨_, last⟩ := List.append_inj' reached rfl
        exact unused.1 (List.cons.inj last).1.symm
      simp only [walk, same.isDirectory, entryAt?_put_of_ne differs, ih unused.2]

theorem find_put_temporary (fresh : course.IsFresh tree path)
    (beside : tree.findDirectory path.directory = .ok directory) (part : List UInt8) :
    (tree.put (directory ++ [course.name]) (.file part)).find path = tree.find path := by
  have same := sameDirectories_temporary fresh beside part
  unfold find
  rw [same.start]
  cases started : tree.start path with
  | error error => rfl
  | ok root =>
      simp only [bind, Except.bind, walk_put_of_unused same fresh.unused]
      cases walked : tree.walk root path.steps with
      | error error => rfl
      | ok location =>
          have differs : location ≠ directory ++ [course.name] := by
            rintro rfl
            exact not_leads_temporary fresh beside (leads_of_walk started walked)
          simp only [entryAt?_put_of_ne differs]

end Temporary

def WriteRun.states (run : WriteRun) : List FileTree := run.first :: (run.between ++ [run.last])

/-- What a write does: with success the content is where the path leads, and all else is as it was; with an error
nothing has changed. The temporary file is gone, and in no state does the path find a part of the content. -/
structure AllOrNothing (tree : FileTree) (path : Path) (content : List UInt8) (name : Text) (run : WriteRun) :
    Prop where
  replaced : run.outcome = .ok () → ∃ place, tree.locate? path = some place ∧
    run.last.find path = .ok (place, .file content) ∧
    run.last.workingDirectory = tree.workingDirectory ∧
    ∀ other, other ≠ place → run.last.entryAt? other = tree.entryAt? other
  unchanged : ∀ error, run.outcome = .error error → run.last = tree
  removed : ∀ directory, tree.findDirectory path.directory = .ok directory →
    run.last.entryAt? (directory ++ [name]) = none
  whole : ∀ state ∈ run.states, state.find path = tree.find path ∨
    ∃ place, tree.locate? path = some place ∧ state.find path = .ok (place, .file content)

section Run

variable {tree : FileTree} {path : Path} {content : List UInt8} {course : WriteCourse} {run : WriteRun}

theorem allOrNothing_of_goes (fresh : course.IsFresh tree path) (goes : Goes tree course path content run) :
    tree.AllOrNothing path content course.name run := by
  have absent (directory) (beside : tree.findDirectory path.directory = .ok directory) :
      tree.entryAt? (directory ++ [course.name]) = none :=
    entryAt?_of_absent (by simp) (fresh.absent beside)
  have unseen (state) (has : tree.HasTemporary course path state) : state.find path = tree.find path := by
    obtain ⟨directory, part, beside, rfl⟩ := has
    exact find_put_temporary fresh beside part
  cases goes with
  | undone temporary _ =>
      refine ⟨nofun, fun _ _ => rfl, absent, ?_⟩
      intro state member
      simp only [WriteRun.states, List.mem_cons, List.mem_append, List.not_mem_nil, or_false] at member
      rcases member with rfl | member | rfl
      · exact Or.inl rfl
      · exact Or.inl (unseen state (temporary state member))
      · exact Or.inl rfl
  | @done _ place temporary _ writable =>
      have located := writable.locate?
      have found := find_put_of_writable writable content
      refine ⟨?_, nofun, ?_, ?_⟩
      · intro _
        exact ⟨place, located, found, workingDirectory_put, fun other differs => entryAt?_put_of_ne differs⟩
      · intro directory beside
        have differs : directory ++ [course.name] ≠ place := by
          rintro rfl
          exact not_leads_temporary fresh beside writable.leads
        exact (entryAt?_put_of_ne differs).trans (absent directory beside)
      · intro state member
        simp only [WriteRun.states, List.mem_cons, List.mem_append, List.not_mem_nil, or_false] at member
        rcases member with rfl | member | rfl
        · exact Or.inl rfl
        · exact Or.inl (unseen state (temporary state member))
        · exact Or.inr ⟨place, located, found⟩

theorem outcome_eq_ok_iff (fresh : course.IsFresh tree path) :
    (tree.atomicWriteBy course path content).outcome = .ok () ↔
      (∀ step, course.serve step = .ok ()) ∧ ∃ place, tree.Writable path place := by
  constructor
  · intro succeeded
    obtain ⟨served, place, writable, _⟩ := (atomicWriteBy_eq_ok_iff fresh).mp ⟨succeeded, rfl⟩
    exact ⟨served, place, writable⟩
  · rintro ⟨served, place, writable⟩
    exact ((atomicWriteBy_eq_ok_iff fresh).mpr ⟨served, place, writable, rfl⟩).1

end Run

/-- A write is all or nothing, whatever the tree, the path and the content are, whatever fresh name the temporary
file gets and whichever step the system refuses. It succeeds exactly when no step is refused and the path can be
written. The write in which nothing is refused is one of these. -/
theorem write_is_all_or_nothing (tree : FileTree) (path : Path) (content : List UInt8) :
    (∀ course : WriteCourse, course.IsFresh tree path →
      tree.AllOrNothing path content course.name (tree.atomicWriteBy course path content) ∧
      ((tree.atomicWriteBy course path content).outcome = .ok () ↔
        (∀ step, course.serve step = .ok ()) ∧ ∃ place, tree.Writable path place)) ∧
    (∃ course : WriteCourse, course.IsFresh tree path ∧ (∀ step, course.serve step = .ok ()) ∧
      tree.atomicWrite path content = tree.atomicWriteBy course path content) := by
  constructor
  · intro course fresh
    exact ⟨allOrNothing_of_goes fresh (goes_atomicWriteBy fresh content), outcome_eq_ok_iff fresh⟩
  · exact ⟨_, WriteCourse.isFresh_of_name rfl, fun _ => rfl, rfl⟩

def filedTree : FileTree := ⟨[], [([['d']], .directory), ([['d'], ['t']], .file [1])]⟩

def fullCourse : WriteCourse :=
  ⟨".t".toList, [1], fun step => if step = .fill then .error .busy else .ok ()⟩

theorem refused_part_leaves_target :
    fullCourse.IsFresh filedTree "d/t".toList ∧
    (filedTree.atomicWriteBy fullCourse "d/t".toList [2, 3]).outcome = .error .busy ∧
    (filedTree.atomicWriteBy fullCourse "d/t".toList [2, 3]).last = filedTree ∧
    (filedTree.atomicWrite "d/t".toList [2, 3]).outcome = .ok () ∧
    (filedTree.atomicWrite "d/t".toList [2, 3]).last.readFile "d/t".toList = .ok [2, 3] := by
  have fresh : fullCourse.IsFresh filedTree "d/t".toList := by
    constructor
    · intro directory beside
      obtain rfl : [['d']] = directory := Except.ok.inj beside
      decide
    · decide
  have refused : (filedTree.atomicWriteBy fullCourse "d/t".toList [2, 3]).outcome = .error .busy := rfl
  have written : (filedTree.atomicWrite "d/t".toList [2, 3]).outcome = .ok () := rfl
  have writes := (write_is_all_or_nothing filedTree "d/t".toList [2, 3]).1
  obtain ⟨place, _, found, _⟩ := (writes _ (WriteCourse.isFresh_of_name rfl)).1.replaced written
  refine ⟨fresh, refused, ?_, written, ?_⟩
  · exact (writes fullCourse fresh).1.unchanged _ refused
  · simp only [readFile, atomicWrite, found, bind, Except.bind]

end Termbase.FileTree
