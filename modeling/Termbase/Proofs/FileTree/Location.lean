import Termbase.Proofs.FileTree.AtomicWrite

/-! Where a path leads, and what is found there. The location depends only on the directories of a tree, and
what a path finds only on that location and its entry. -/

namespace Termbase.FileTree

/-- Where a step from a directory leads: a dot stays, two dots go up, and a name goes down. -/
def destination (directory : Location) (step : Text) : Location :=
  if step == ['.'] then directory
  else if step == ['.', '.'] then directory.dropLast
  else directory ++ [step]

def locate? (tree : FileTree) (path : Path) : Option Location :=
  match tree.start path with
  | .error _ => none
  | .ok root =>
      match path.steps.getLast? with
      | none => some root
      | some step =>
          match tree.walk root path.steps.dropLast with
          | .error _ => none
          | .ok directory =>
              if tree.isDirectory directory then some (destination directory step) else none

structure SameDirectories (tree changed : FileTree) : Prop where
  workingDirectory : changed.workingDirectory = tree.workingDirectory
  isDirectory : ∀ place, changed.isDirectory place = tree.isDirectory place

structure SameEntries (tree changed : FileTree) : Prop where
  workingDirectory : changed.workingDirectory = tree.workingDirectory
  entryAt? : ∀ place, changed.entryAt? place = tree.entryAt? place

theorem SameEntries.symm {tree changed : FileTree} (same : SameEntries tree changed) : SameEntries changed tree :=
  ⟨same.workingDirectory.symm, fun place => (same.entryAt? place).symm⟩

def Apart (tree : FileTree) (left right : Path) : Prop :=
  ∀ place, tree.locate? left = some place → tree.locate? right ≠ some place

section Steps

variable {tree : FileTree} {path : Path} {root directory location : Location} {step : Text}

/-- How a path leads to a location: it has no steps, or its last step is one from a directory. -/
inductive Leads (tree : FileTree) (path : Path) : Location → Prop
  | start {root : Location} : tree.start path = .ok root → path.steps = [] → Leads tree path root
  | step {root directory : Location} {before : List Text} {step : Text} :
      tree.start path = .ok root → path.steps = before ++ [step] →
      tree.walk root before = .ok directory → tree.isDirectory directory = true →
      Leads tree path (destination directory step)

theorem locate?_eq_some_iff : tree.locate? path = some location ↔ tree.Leads path location := by
  constructor
  · intro located
    unfold locate? at located
    cases started : tree.start path with
    | error error => simp [started] at located
    | ok root =>
        simp only [started] at located
        cases last : path.steps.getLast? with
        | none =>
            simp only [last, Option.some.injEq] at located
            subst located
            exact .start started (List.getLast?_eq_none_iff.mp last)
        | some step =>
            obtain ⟨before, steps⟩ := List.getLast?_eq_some_iff.mp last
            rw [steps, List.getLast?_concat, List.dropLast_concat] at located
            cases walked : tree.walk root before with
            | error error => simp [walked] at located
            | ok directory =>
                simp only [walked, Option.ite_none_right_eq_some, Option.some.injEq] at located
                obtain ⟨arrived, rfl⟩ := located
                exact .step started steps walked arrived
  · intro leads
    cases leads with
    | start started steps => simp [locate?, started, steps]
    | step started steps walked arrived => simp [locate?, started, steps, walked, arrived]

theorem walk_singleton (arrived : tree.isDirectory directory = true) (step : Text) :
    tree.walk directory [step] =
      if isIdleStep step then .ok (destination directory step)
      else if isTooLong step then .error .nameTooLong
      else if (tree.entryAt? (destination directory step)).isNone then .error .notFound
      else .ok (destination directory step) := by
  unfold walk
  simp only [arrived, Bool.not_true, Bool.false_eq_true, if_false]
  by_cases dot : (step == ['.']) = true
  · simp [isIdleStep, destination, dot, walk]
  · by_cases dots : (step == ['.', '.']) = true
    · simp [isIdleStep, destination, dot, dots, walk]
    · simp [isIdleStep, destination, dot, dots, walk]

theorem eq_destination_of_walk (arrived : tree.isDirectory directory = true)
    (walked : tree.walk directory [step] = .ok location) : location = destination directory step := by
  rw [walk_singleton arrived] at walked
  split at walked
  next => simpa using walked.symm
  next =>
    split at walked
    next => cases walked
    next =>
      split at walked
      next => cases walked
      next => simpa using walked.symm

theorem leads_of_walk (started : tree.start path = .ok root)
    (walked : tree.walk root path.steps = .ok location) : tree.Leads path location := by
  cases last : path.steps.getLast? with
  | none =>
      have empty : path.steps = [] := List.getLast?_eq_none_iff.mp last
      rw [empty] at walked
      cases walked
      exact .start started empty
  | some step =>
      obtain ⟨before, steps⟩ := List.getLast?_eq_some_iff.mp last
      rw [steps, walk_append] at walked
      cases first : tree.walk root before with
      | error error => simp [first, Except.bind] at walked
      | ok directory =>
          simp only [first, Except.bind] at walked
          have arrived : tree.isDirectory directory = true := by
            cases isDirectory : tree.isDirectory directory with
            | true => rfl
            | false => simp [walk, isDirectory] at walked
          rw [eq_destination_of_walk arrived walked]
          exact .step started steps first arrived

theorem walk_of_find {entry : Entry} (found : tree.find path = .ok (location, entry)) :
    ∃ root, tree.start path = .ok root ∧ tree.walk root path.steps = .ok location ∧
      tree.entryAt? location = some entry := by
  simp only [find, bind_eq_ok_iff] at found
  obtain ⟨root, started, reached, walked, there⟩ := found
  cases entryEq : tree.entryAt? reached with
  | none => simp [entryEq] at there
  | some other =>
      simp only [entryEq] at there
      split at there
      next => cases there
      next =>
        simp only [Except.ok.injEq, Prod.mk.injEq] at there
        obtain ⟨rfl, rfl⟩ := there
        exact ⟨root, started, walked, entryEq⟩

theorem leads_of_find {entry : Entry} (found : tree.find path = .ok (location, entry)) :
    tree.Leads path location := by
  obtain ⟨root, started, walked, _⟩ := walk_of_find found
  exact leads_of_walk started walked

theorem leads_of_names (names : tree.Names path root directory step) :
    tree.Leads path (directory ++ [step]) := by
  obtain ⟨before, steps⟩ := List.getLast?_eq_some_iff.mp names.last
  have walked := names.walked
  rw [steps, List.dropLast_concat] at walked
  have named : destination directory step = directory ++ [step] := by
    have proper := names.proper
    simp only [isIdleStep, Bool.or_eq_false_iff] at proper
    simp [destination, proper]
  rw [← named]
  exact .step names.started steps walked names.arrived

end Steps

namespace SameDirectories

variable {tree changed last : FileTree} {path : Path} {location target : Location}

theorem refl (tree : FileTree) : SameDirectories tree tree := ⟨rfl, fun _ => rfl⟩

theorem symm (same : SameDirectories tree changed) : SameDirectories changed tree :=
  ⟨same.workingDirectory.symm, fun place => (same.isDirectory place).symm⟩

theorem trans (first : SameDirectories tree changed) (second : SameDirectories changed last) :
    SameDirectories tree last :=
  ⟨second.workingDirectory.trans first.workingDirectory,
    fun place => (second.isDirectory place).trans (first.isDirectory place)⟩

theorem start (same : SameDirectories tree changed) (path : Path) : changed.start path = tree.start path :=
  start_congr same.workingDirectory

theorem arrived (same : SameDirectories tree changed) {place : Location}
    (directory : tree.isDirectory place = true) : changed.isDirectory place = true := by
  rw [same.isDirectory]
  exact directory

theorem walk (same : SameDirectories tree changed) {steps : List Text}
    (walked : tree.walk location steps = .ok target) (arrived : tree.isDirectory target = true) :
    changed.walk location steps = .ok target :=
  walk_congr (fun _ => same.arrived) walked arrived

theorem names (same : SameDirectories tree changed) {root directory : Location} {name : Text}
    (names : tree.Names path root directory name) : changed.Names path root directory name := by
  refine { names with started := ?_, walked := ?_, arrived := ?_ }
  · rw [same.start]
    exact names.started
  · exact same.walk names.walked names.arrived
  · exact same.arrived names.arrived

theorem leads (same : SameDirectories tree changed) (leads : tree.Leads path location) :
    changed.Leads path location := by
  cases leads with
  | start started steps =>
      rw [← same.start] at started
      exact .start started steps
  | step started steps walked arrived =>
      rw [← same.start] at started
      exact .step started steps (same.walk walked arrived) (same.arrived arrived)

theorem locate? (same : SameDirectories tree changed) (path : Path) :
    changed.locate? path = tree.locate? path := by
  apply Option.ext
  intro location
  rw [locate?_eq_some_iff, locate?_eq_some_iff]
  exact ⟨same.symm.leads, same.leads⟩

end SameDirectories

section Found

variable {tree changed : FileTree} {path : Path} {location : Location}

theorem find_congr (same : SameDirectories tree changed) (leads : tree.Leads path location)
    (kept : changed.entryAt? location = tree.entryAt? location) : changed.find path = tree.find path := by
  unfold find
  rw [same.start]
  cases leads with
  | start started steps => simp only [bind, Except.bind, started, steps, walk, kept]
  | @step root directory before step started steps walked arrived =>
      have lastStep : changed.walk directory [step] = tree.walk directory [step] := by
        rw [walk_singleton arrived, walk_singleton (same.arrived arrived), kept]
      simp only [bind, Except.bind, started, steps, walk_append, same.walk walked arrived, walked, lastStep]
      cases reached : tree.walk directory [step] with
      | error error => rfl
      | ok place => simp only [eq_destination_of_walk arrived reached, kept]

theorem readFile_congr (same : changed.find path = tree.find path) :
    changed.readFile path = tree.readFile path := by
  simp only [readFile, same]

theorem lookForFile_congr (same : changed.find path = tree.find path) :
    changed.lookForFile path = tree.lookForFile path := by
  simp only [lookForFile, same]

theorem lookForFile_eq_true_iff :
    tree.lookForFile path = .ok true ↔ ∃ place content, tree.find path = .ok (place, .file content) := by
  unfold lookForFile
  cases found : tree.find path with
  | ok reached =>
      obtain ⟨place, _ | content⟩ := reached
      · simp
      · simp
  | error error => cases error <;> simp

theorem readText_congr (same : changed.find path = tree.find path) :
    changed.readText path = tree.readText path := by
  simp only [readText, readFile_congr same]

end Found

end Termbase.FileTree
