import Termbase.Proofs.FileTree.Replacement

/-! Making sure that a directory is there. It touches no file, whether it succeeds or not, and when it has
succeeded it has nothing more to do. -/

namespace Termbase.FileTree

structure SameFiles (tree changed : FileTree) : Prop where
  workingDirectory : changed.workingDirectory = tree.workingDirectory
  entryAt? : ∀ place content,
    changed.entryAt? place = some (.file content) ↔ tree.entryAt? place = some (.file content)

namespace SameFiles

variable {tree changed last : FileTree}

theorem refl (tree : FileTree) : SameFiles tree tree := ⟨rfl, fun _ _ => Iff.rfl⟩

theorem trans (first : SameFiles tree changed) (second : SameFiles changed last) : SameFiles tree last :=
  ⟨second.workingDirectory.trans first.workingDirectory,
    fun place content => (second.entryAt? place content).trans (first.entryAt? place content)⟩

end SameFiles

section Creation

variable {tree changed : FileTree} {path : Path} {location : Location}

theorem createDirectory_eq_ok (created : tree.createDirectory path = .ok changed) :
    ∃ root directory name, tree.start path = .ok root ∧
      tree.walk root path.steps.dropLast = .ok directory ∧ tree.isDirectory directory = true ∧
      path.steps.getLast? = some name ∧ isIdleStep name = false ∧ isTooLong name = false ∧
      tree.entryAt? (directory ++ [name]) = none ∧ changed = tree.put (directory ++ [name]) .directory := by
  simp only [createDirectory, findParent, bind_eq_ok_iff] at created
  obtain ⟨⟨directory, name?⟩, ⟨root, started, location, walked, arrived⟩, placed⟩ := created
  split at arrived
  next present =>
    cases arrived
    cases last : path.steps.getLast? with
    | none => simp [last] at placed
    | some name =>
        simp only [last] at placed
        split at placed
        next => cases placed
        next proper =>
          split at placed
          next => cases placed
          next short =>
            split at placed
            next => cases placed
            next vacant =>
              cases placed
              exact ⟨root, directory, name, started, walked, present, rfl, by simpa using proper,
                by simpa using short, by simpa using vacant, rfl⟩
  next => cases arrived

theorem sameFiles_put_directory (vacant : tree.entryAt? location = none) (proper : location ≠ []) :
    SameFiles tree (tree.put location .directory) := by
  refine ⟨workingDirectory_put, ?_⟩
  intro place content
  by_cases same : place = location
  · subst same
    simp [entryAt?_put proper, vacant]
  · rw [entryAt?_put_of_ne same]

theorem sameFiles_createDirectory (created : tree.createDirectory path = .ok changed) :
    SameFiles tree changed := by
  obtain ⟨root, directory, name, _, _, _, _, _, _, vacant, rfl⟩ := createDirectory_eq_ok created
  exact sameFiles_put_directory vacant (by simp)

theorem sameFiles_orExisting {created : Except FileError FileTree}
    (grown : ∀ changed, created = .ok changed → SameFiles tree changed) :
    SameFiles tree (tree.orExisting path created).2 := by
  cases created with
  | error error => exact SameFiles.refl tree
  | ok changed => exact grown changed rfl

theorem sameFiles_createDirectoriesWithin (count : Nat) (tree : FileTree) (path : Path) :
    SameFiles tree (createDirectoriesWithin count tree path).2 := by
  induction count generalizing tree path with
  | zero => exact SameFiles.refl tree
  | succ count ih =>
      simp only [createDirectoriesWithin]
      split
      next => exact SameFiles.refl tree
      next =>
        split
        next =>
          split
          next => exact SameFiles.refl tree
          next parent _ =>
            have first := ih tree parent
            split
            next error grown failed =>
              rw [failed] at first
              exact first
            next _ grown prepared =>
              rw [prepared] at first
              exact first.trans (sameFiles_orExisting fun _ => sameFiles_createDirectory)
        next => exact sameFiles_orExisting fun _ => sameFiles_createDirectory

theorem sameFiles_ensureDirectory (tree : FileTree) (path : Path) :
    SameFiles tree (tree.ensureDirectory path).2 := by
  unfold ensureDirectory
  split
  next => exact SameFiles.refl tree
  next => exact SameFiles.refl tree
  next => exact sameFiles_createDirectoriesWithin _ tree path
  next => exact SameFiles.refl tree

theorem isDirectory_put_directory {place : Location} (directory : tree.isDirectory place = true) :
    (tree.put location .directory).isDirectory place = true := by
  rw [isDirectory_iff] at directory ⊢
  by_cases same : place = location
  · subst same
    by_cases root : place = []
    · subst root
      rfl
    · exact entryAt?_put root
  · rw [entryAt?_put_of_ne same, directory]

theorem find_of_createDirectory (created : tree.createDirectory path = .ok changed) :
    ∃ place, changed.find path = .ok (place, .directory) := by
  obtain ⟨root, directory, name, started, walked, arrived, last, proper, short, _, rfl⟩ :=
    createDirectory_eq_ok created
  obtain ⟨before, steps⟩ := List.getLast?_eq_some_iff.mp last
  rw [steps, List.dropLast_concat] at walked
  have there : (tree.put (directory ++ [name]) .directory).entryAt? (directory ++ [name]) =
      some .directory := entryAt?_put (by simp)
  have named : destination directory name = directory ++ [name] := by
    simp only [isIdleStep, Bool.or_eq_false_iff] at proper
    simp [destination, proper]
  have kept (place : Location) (there : tree.isDirectory place = true) :
      (tree.put (directory ++ [name]) .directory).isDirectory place = true := isDirectory_put_directory there
  have walkedStill := walk_congr kept walked arrived
  have arrivedStill := kept directory arrived
  refine ⟨directory ++ [name], ?_⟩
  simp [find, start_congr workingDirectory_put, started, steps, walk_append, walkedStill,
    walk_singleton arrivedStill, proper, short, named, there, Entry.isFile, bind, Except.bind]

theorem namesDirectory_iff :
    tree.namesDirectory path = true ↔ ∃ place, tree.find path = .ok (place, .directory) := by
  unfold namesDirectory
  split
  next place found => simp [found]
  next other =>
    simp only [Bool.false_eq_true, false_iff, not_exists]
    intro place found
    exact other place found

theorem find_of_orExisting {created : Except FileError FileTree}
    (grown : ∀ next, created = .ok next → ∃ place, next.find path = .ok (place, .directory))
    (succeeded : tree.orExisting path created = (.ok (), changed)) :
    ∃ place, changed.find path = .ok (place, .directory) := by
  cases created with
  | error error =>
      simp only [orExisting, Prod.mk.injEq] at succeeded
      obtain ⟨outcome, rfl⟩ := succeeded
      split at outcome
      next named => exact namesDirectory_iff.mp named
      next => cases outcome
  | ok next =>
      simp only [orExisting, Prod.mk.injEq, true_and] at succeeded
      subst succeeded
      exact grown next rfl

theorem find_of_createDirectories (proper : path ≠ [])
    (succeeded : tree.createDirectories path = (.ok (), changed)) :
    ∃ place, changed.find path = .ok (place, .directory) := by
  have named : path.isEmpty = false := by simpa using proper
  simp only [createDirectories, createDirectoriesWithin, named, Bool.false_eq_true, if_false] at succeeded
  split at succeeded
  next =>
    split at succeeded
    next => simp at succeeded
    next =>
      split at succeeded
      next => simp at succeeded
      next => exact find_of_orExisting (fun _ => find_of_createDirectory) succeeded
  next => exact find_of_orExisting (fun _ => find_of_createDirectory) succeeded

theorem ensureDirectory_nil (tree : FileTree) : tree.ensureDirectory [] = (.ok true, tree) := by
  have missing : tree.find [] = .error .notFound := rfl
  simp only [ensureDirectory, missing]
  rfl

theorem find_of_ensureDirectory (proper : path ≠ []) {created : Bool}
    (succeeded : tree.ensureDirectory path = (.ok created, changed)) :
    ∃ place, changed.find path = .ok (place, .directory) := by
  unfold ensureDirectory at succeeded
  split at succeeded
  next place found =>
    cases succeeded
    exact ⟨place, found⟩
  next => cases succeeded
  next =>
    rcases prepared : tree.createDirectories path with ⟨_ | ⟨⟩, next⟩
    · simp [prepared, Except.map] at succeeded
    · simp only [prepared, Prod.mk.injEq] at succeeded
      rw [← succeeded.2]
      exact find_of_createDirectories proper prepared
  next => cases succeeded

theorem ensureDirectory_again {created : Bool} {later : FileTree}
    (succeeded : tree.ensureDirectory path = (.ok created, changed))
    (same : SameDirectories changed later) : ∃ again, later.ensureDirectory path = (.ok again, later) := by
  by_cases empty : path = []
  · subst empty
    exact ⟨true, ensureDirectory_nil later⟩
  · obtain ⟨place, found⟩ := find_of_ensureDirectory empty succeeded
    have foundLater := same.find_directory found
    refine ⟨false, ?_⟩
    simp only [ensureDirectory, foundLater]

end Creation

end Termbase.FileTree
