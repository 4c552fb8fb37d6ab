import Termbase.Proofs.FileTree.Location

/-! Replacing a file as a whole. A write either fails and leaves the tree as it was, or puts the content at the
one place that the path leads to; which of the two happens depends on the directories only. -/

namespace Termbase.FileTree

variable {tree changed : FileTree} {path : Path} {place directory : Location} {content : List UInt8}

section Temporary

theorem WriteCourse.IsFresh.absent {course : WriteCourse} (fresh : course.IsFresh tree path)
    (beside : tree.findDirectory path.directory = .ok directory) :
    ∀ entry ∈ tree.entries, entry.1 ≠ directory ++ [course.name] := by
  intro entry member same
  exact fresh.free directory beside entry member (same ▸ List.prefix_rfl)

theorem put_of_absent {entry : Entry} (absent : ∀ old ∈ tree.entries, old.1 ≠ place) :
    tree.put place entry = { tree with entries := tree.entries ++ [(place, entry)] } := by
  have unknown : ¬ tree.entries.any (·.1 == place) = true := by
    intro present
    obtain ⟨old, member, same⟩ := List.any_eq_true.mp present
    exact absent old member (by simpa using same)
  simp only [put, unknown, if_false, Bool.false_eq_true]

theorem put_put_of_absent {first second : Entry} (absent : ∀ old ∈ tree.entries, old.1 ≠ place) :
    (tree.put place first).put place second = tree.put place second := by
  have kept : tree.entries.map (fun old => if old.1 = place then (place, second) else old) = tree.entries := by
    have identity : tree.entries.map (fun old => if old.1 = place then (place, second) else old) =
        tree.entries.map id := by
      apply List.map_congr_left
      intro old member
      rw [if_neg (absent old member), id]
    rw [identity, List.map_id]
  rw [put_of_absent absent, put_of_absent absent]
  simp [put, kept]

theorem erase_put_of_absent {entry : Entry} (absent : ∀ old ∈ tree.entries, old.1 ≠ place) :
    (tree.put place entry).erase place = tree := by
  have kept : tree.entries.filter (·.1 != place) = tree.entries := by
    rw [List.filter_eq_self]
    intro old member
    simpa using absent old member
  rw [put_of_absent absent]
  simp [erase, kept]

theorem entryAt?_of_absent (proper : place ≠ []) (absent : ∀ old ∈ tree.entries, old.1 ≠ place) :
    tree.entryAt? place = none := by
  have named : place.isEmpty = false := by simpa using proper
  simp only [entryAt?, named, Bool.false_eq_true, if_false, List.lookup_eq_none_iff]
  intro old member
  simpa using (absent old member).symm

end Temporary

theorem isDirectory_put_file (proper : place ≠ []) (vacant : tree.isDirectory place = false)
    (other : Location) : (tree.put place (.file content)).isDirectory other = tree.isDirectory other := by
  by_cases same : other = place
  · subst same
    rw [vacant]
    simp [isDirectory, entryAt?_put proper]
  · simp only [isDirectory, entryAt?_put_of_ne same]

theorem sameDirectories_put (proper : place ≠ []) (vacant : tree.isDirectory place = false) :
    SameDirectories tree (tree.put place (.file content)) :=
  ⟨workingDirectory_put, isDirectory_put_file proper vacant⟩

/-- The place of a path that can be written: a name in a directory that is there, with no directory of that
name. -/
structure Writable (tree : FileTree) (path : Path) (place : Location) : Prop where
  beside : ∃ directory, tree.findDirectory path.directory = .ok directory
  named : ∃ root directory name, tree.Names path root directory name ∧ place = directory ++ [name]
  vacant : tree.isDirectory place = false

namespace Writable

theorem leads (writable : tree.Writable path place) : tree.Leads path place := by
  obtain ⟨root, directory, name, names, rfl⟩ := writable.named
  exact leads_of_names names

theorem locate? (writable : tree.Writable path place) : tree.locate? path = some place :=
  locate?_eq_some_iff.mpr writable.leads

theorem eq (writable : tree.Writable path place) {other : Location} (otherWritable : tree.Writable path other) :
    other = place := by
  have located := writable.locate?
  rw [otherWritable.locate?] at located
  exact Option.some.inj located

theorem proper (writable : tree.Writable path place) : place ≠ [] := by
  obtain ⟨root, directory, name, names, rfl⟩ := writable.named
  simp

theorem sameDirectories (writable : tree.Writable path place) (content : List UInt8) :
    SameDirectories tree (tree.put place (.file content)) :=
  sameDirectories_put writable.proper writable.vacant

theorem entryAt?_put (writable : tree.Writable path place) {other : Location} {entry : Entry}
    (differs : tree.locate? path ≠ some other) : (tree.put place entry).entryAt? other = tree.entryAt? other := by
  apply entryAt?_put_of_ne
  rintro rfl
  exact differs writable.locate?

theorem find (writable : tree.Writable path place) {entry : Entry}
    (there : tree.entryAt? place = some entry) : tree.find path = .ok (place, entry) := by
  obtain ⟨root, directory, name, names, rfl⟩ := writable.named
  exact find_of_names names there

end Writable

theorem findDirectory_eq_ok_iff :
    tree.findDirectory path = .ok directory ↔ tree.find path = .ok (directory, .directory) := by
  simp only [findDirectory, bind_eq_ok_iff]
  constructor
  · rintro ⟨⟨location, _ | content⟩, found, same⟩
    · cases same
      exact found
    · cases same
  · intro found
    exact ⟨_, found, rfl⟩

namespace SameDirectories

theorem find_directory (same : SameDirectories tree changed)
    (found : tree.find path = .ok (directory, .directory)) :
    changed.find path = .ok (directory, .directory) := by
  obtain ⟨_, _, _, there⟩ := walk_of_find found
  have still := isDirectory_iff.mp (same.arrived (isDirectory_iff.mpr there))
  rw [find_congr same (leads_of_find found) (still.trans there.symm), found]

theorem findDirectory (same : SameDirectories tree changed)
    (found : tree.findDirectory path = .ok directory) : changed.findDirectory path = .ok directory := by
  rw [findDirectory_eq_ok_iff] at found ⊢
  exact same.find_directory found

theorem writable (same : SameDirectories tree changed) (writable : tree.Writable path place) :
    changed.Writable path place := by
  obtain ⟨⟨directory, beside⟩, ⟨root, parent, name, names, placed⟩, vacant⟩ := writable
  refine ⟨⟨directory, same.findDirectory beside⟩, ⟨root, parent, name, same.names names, placed⟩, ?_⟩
  rw [same.isDirectory]
  exact vacant

end SameDirectories

theorem find_put_of_writable (writable : tree.Writable path place) (content : List UInt8) :
    (tree.put place (.file content)).find path = .ok (place, .file content) :=
  ((writable.sameDirectories content).writable writable).find (entryAt?_put writable.proper)

theorem move_of_names {source root parent : Location} {name : Text} {entry : Entry}
    (names : tree.Names path root parent name) (vacant : tree.isDirectory (parent ++ [name]) = false)
    (found : tree.entryAt? source = some entry) :
    tree.move source path = .ok ((tree.erase source).put (parent ++ [name]) entry) := by
  simp [move, findParent, names.started, names.walked, names.arrived, names.last, names.proper,
    names.short, names.ending, vacant, found, bind, Except.bind]

theorem move_temporary (content : List UInt8) (beside : ∃ directory, tree.findDirectory path.directory = .ok directory)
    {temporary : Location} (proper : temporary ≠ [])
    (absent : ∀ old ∈ tree.entries, old.1 ≠ temporary) (moved : FileTree) :
    (tree.put temporary (.file content)).move temporary path = .ok moved ↔
      ∃ place, tree.Writable path place ∧ moved = tree.put place (.file content) := by
  have vacantTemporary : tree.isDirectory temporary = false := by
    simp [isDirectory, entryAt?_of_absent proper absent]
  have same : SameDirectories tree (tree.put temporary (.file content)) :=
    sameDirectories_put proper vacantTemporary
  have there : (tree.put temporary (.file content)).entryAt? temporary = some (.file content) :=
    entryAt?_put proper
  have erased : (tree.put temporary (.file content)).erase temporary = tree := erase_put_of_absent absent
  -- The temporary file is no directory, so the path leads to the same place with it and without it.
  constructor
  · intro movedEq
    obtain ⟨root, parent, name, entry, names, vacant, found, rfl⟩ := move_eq_ok movedEq
    rw [there] at found
    cases found
    rw [same.isDirectory] at vacant
    exact ⟨parent ++ [name], ⟨beside, ⟨root, parent, name, same.symm.names names, rfl⟩, vacant⟩, by
      rw [erased]⟩
  · rintro ⟨place, ⟨_, ⟨root, parent, name, names, rfl⟩, vacant⟩, rfl⟩
    rw [← same.isDirectory] at vacant
    rw [move_of_names (same.names names) vacant there, erased]

def HasTemporary (tree : FileTree) (course : WriteCourse) (path : Path) (state : FileTree) : Prop :=
  ∃ directory part, tree.findDirectory path.directory = .ok directory ∧
    state = tree.put (directory ++ [course.name]) (.file part)

/-- The two ways a write goes. The states in between differ from the tree by the temporary file; at the end there
is either the tree again, or the content at a place that can be written, if no step was refused. -/
inductive Goes (tree : FileTree) (course : WriteCourse) (path : Path) (content : List UInt8) : WriteRun → Prop
  | undone {between : List FileTree} {error : FileError} :
      (∀ state ∈ between, tree.HasTemporary course path state) →
      ¬ ((∀ step, course.serve step = .ok ()) ∧ ∃ place, tree.Writable path place) →
      Goes tree course path content ⟨tree, between, tree, .error error⟩
  | done {between : List FileTree} {place : Location} :
      (∀ state ∈ between, tree.HasTemporary course path state) →
      (∀ step, course.serve step = .ok ()) → tree.Writable path place →
      Goes tree course path content ⟨tree, between, tree.put place (.file content), .ok ()⟩

section Run

variable {course : WriteCourse}

theorem HasTemporary.erase {state : FileTree} (has : tree.HasTemporary course path state)
    (fresh : course.IsFresh tree path) (beside : tree.findDirectory path.directory = .ok directory) :
    state.erase (directory ++ [course.name]) = tree := by
  obtain ⟨other, part, found, rfl⟩ := has
  obtain rfl : directory = other := Except.ok.inj (beside.symm.trans found)
  exact erase_put_of_absent (fresh.absent beside)

theorem hasTemporary_of_parts (course : WriteCourse)
    (beside : tree.findDirectory path.directory = .ok directory) (parts : List (List UInt8)) :
    ∀ state ∈ parts.map fun part => tree.put (directory ++ [course.name]) (.file part),
      tree.HasTemporary course path state := by
  intro state member
  obtain ⟨part, _, rfl⟩ := List.mem_map.mp member
  exact ⟨directory, part, beside, rfl⟩

theorem flush_rename_eq_ok_iff (content : List UInt8) (fresh : course.IsFresh tree path)
    (beside : tree.findDirectory path.directory = .ok directory) (moved : FileTree) :
    (do
      course.serve .flush
      course.serve .rename
      (tree.put (directory ++ [course.name]) (.file content)).move (directory ++ [course.name]) path) =
        .ok moved ↔
      course.serve .flush = .ok () ∧ course.serve .rename = .ok () ∧
        ∃ place, tree.Writable path place ∧ moved = tree.put place (.file content) := by
  have moves := move_temporary content ⟨directory, beside⟩
    (List.append_ne_nil_of_right_ne_nil directory (List.cons_ne_nil course.name [])) (fresh.absent beside) moved
  simp only [bind_eq_ok_iff, moves]
  constructor
  · rintro ⟨_, flushServed, _, renameServed, placed⟩
    exact ⟨flushServed, renameServed, placed⟩
  · rintro ⟨flushServed, renameServed, placed⟩
    exact ⟨(), flushServed, (), renameServed, placed⟩

theorem goes_atomicWriteBy (fresh : course.IsFresh tree path) (content : List UInt8) :
    Goes tree course path content (tree.atomicWriteBy course path content) := by
  unfold atomicWriteBy
  cases creation : (do course.serve .create; tree.findDirectory path.directory) with
  | error error =>
      refine .undone (fun _ member => absurd member List.not_mem_nil) ?_
      rintro ⟨served, place, writable⟩
      obtain ⟨directory, beside⟩ := writable.beside
      rw [served, beside] at creation
      cases creation
  | ok directory =>
      obtain ⟨_, createServed, beside⟩ := bind_eq_ok_iff.mp creation
      have parts := hasTemporary_of_parts course beside
        ([] :: course.lengths.map fun length => content.take length)
      simp only [put_put_of_absent (fresh.absent beside), List.map_cons, List.map_map, Function.comp_def] at parts ⊢
      cases fillServed : course.serve .fill with
      | error error =>
          rw [(parts _ (List.mem_of_getLast? List.getLast?_cons)).erase fresh beside]
          refine .undone parts ?_
          rintro ⟨served, _⟩
          rw [served] at fillServed
          cases fillServed
      | ok _ =>
          have filled := hasTemporary_of_parts course beside [content] _ List.mem_cons_self
          have states := List.forall_mem_append.mpr ⟨parts, List.forall_mem_singleton.mpr filled⟩
          have ends := flush_rename_eq_ok_iff content fresh beside
          dsimp only
          split
          next error failed =>
            rw [filled.erase fresh beside]
            refine .undone states ?_
            rintro ⟨served, place, writable⟩
            rw [(ends _).mpr ⟨served _, served _, place, writable, rfl⟩] at failed
            cases failed
          next moved succeeded =>
            obtain ⟨flushServed, renameServed, place, writable, rfl⟩ := (ends moved).mp succeeded
            refine .done states ?_ writable
            intro step
            cases step with
            | create => exact createServed
            | fill => exact fillServed
            | flush => exact flushServed
            | rename => exact renameServed

theorem atomicWriteBy_eq_ok_iff (fresh : course.IsFresh tree path) :
    (tree.atomicWriteBy course path content).outcome = .ok () ∧
        (tree.atomicWriteBy course path content).last = changed ↔
      (∀ step, course.serve step = .ok ()) ∧
        ∃ place, tree.Writable path place ∧ changed = tree.put place (.file content) := by
  have goes := goes_atomicWriteBy fresh content
  generalize tree.atomicWriteBy course path content = run at goes ⊢
  cases goes with
  | undone _ fails =>
      constructor
      · rintro ⟨succeeded, _⟩
        cases succeeded
      · rintro ⟨served, place, writable, _⟩
        exact absurd ⟨served, place, writable⟩ fails
  | @done _ place _ served writable =>
      constructor
      · rintro ⟨_, rfl⟩
        exact ⟨served, place, writable, rfl⟩
      · rintro ⟨_, other, otherWritable, rfl⟩
        rw [writable.eq otherWritable]
        exact ⟨rfl, rfl⟩

theorem last_of_error (fresh : course.IsFresh tree path) {error : FileError}
    (failed : (tree.atomicWriteBy course path content).outcome = .error error) :
    (tree.atomicWriteBy course path content).last = tree := by
  have goes := goes_atomicWriteBy fresh content
  generalize tree.atomicWriteBy course path content = run at goes failed ⊢
  cases goes with
  | undone => rfl
  | done => cases failed

end Run

section Service

variable {service : WriteService}

theorem writeAtomicallyBy_eq_ok_iff :
    tree.writeAtomicallyBy service path content = (.ok (), changed) ↔
      service.Serves tree path content ∧ ∃ place, tree.Writable path place ∧
        changed = tree.put place (.file content) := by
  rw [writeAtomicallyBy, Prod.mk.injEq, atomicWriteBy_eq_ok_iff (service.fresh tree path content)]
  exact Iff.rfl

theorem Writable.writeAtomicallyBy (writable : tree.Writable path place) (served : service.Serves tree path content) :
    tree.writeAtomicallyBy service path content = (.ok (), tree.put place (.file content)) :=
  writeAtomicallyBy_eq_ok_iff.mpr ⟨served, place, writable, rfl⟩

theorem eq_of_writeAtomicallyBy_error {error : FileError}
    (failed : tree.writeAtomicallyBy service path content = (.error error, changed)) : changed = tree := by
  rw [FileTree.writeAtomicallyBy, Prod.mk.injEq] at failed
  rw [← failed.2, last_of_error (service.fresh tree path content) failed.1]

theorem find_of_writeAtomicallyBy (written : tree.writeAtomicallyBy service path content = (.ok (), changed)) :
    ∃ location, changed.find path = .ok (location, .file content) := by
  obtain ⟨_, place, writable, rfl⟩ := writeAtomicallyBy_eq_ok_iff.mp written
  exact ⟨place, find_put_of_writable writable content⟩

end Service

end Termbase.FileTree
