import Termbase.FileTree.WriteService
import Termbase.Proofs.Steps
import Termbase.Proofs.Text.Utf8

/-! The entries of a tree that is changed at one place, walks through it, and what a move into it does. -/

namespace Termbase.FileTree

section Entries

variable {tree : FileTree} {location other : Location} {entry : Entry}

theorem lookup_replaced {entries : List (Location × Entry)}
    (present : entries.any (·.1 == location) = true) :
    (entries.map fun old => if old.1 == location then (location, entry) else old).lookup location =
      some entry := by
  induction entries with
  | nil => simp at present
  | cons first rest ih =>
      obtain ⟨place, old⟩ := first
      by_cases same : place = location
      · simp [same]
      · have later : rest.any (·.1 == location) = true := by simpa [same] using present
        have differs : (location == place) = false := by simpa using Ne.symm same
        have skipped : (place == location) = false := by simpa using same
        simp only [List.map_cons, skipped, Bool.false_eq_true, if_false, List.lookup_cons, differs]
        exact ih later

theorem lookup_replaced_of_ne (differs : other ≠ location) (entries : List (Location × Entry)) :
    (entries.map fun old => if old.1 == location then (location, entry) else old).lookup other =
      entries.lookup other := by
  induction entries with
  | nil => rfl
  | cons first rest ih =>
      obtain ⟨place, old⟩ := first
      by_cases same : place = location
      · subst same
        have skipped : (other == place) = false := by simpa using differs
        simp only [List.map_cons, beq_self_eq_true, if_true, List.lookup_cons, skipped, ih]
      · have kept : (place == location) = false := by simpa using same
        simp only [List.map_cons, kept, Bool.false_eq_true, if_false, List.lookup_cons, ih]

theorem entryAt?_put (proper : location ≠ []) :
    (tree.put location entry).entryAt? location = some entry := by
  have named : location.isEmpty = false := by simpa using proper
  unfold put
  split
  next present =>
    simp only [entryAt?, named, Bool.false_eq_true, if_false]
    exact lookup_replaced present
  next absent =>
    have unknown : tree.entries.lookup location = none := by
      rw [List.lookup_eq_none_iff]
      intro old member
      have differs : old.1 ≠ location := by
        intro same
        exact absent (List.any_eq_true.mpr ⟨old, member, by simpa using same⟩)
      simpa using Ne.symm differs
    simp [entryAt?, named, List.lookup_append, unknown]

theorem entryAt?_put_of_ne (differs : other ≠ location) :
    (tree.put location entry).entryAt? other = tree.entryAt? other := by
  unfold put
  split
  next => simp only [entryAt?, lookup_replaced_of_ne differs]
  next =>
    have skipped : (other == location) = false := by simpa using differs
    simp [entryAt?, List.lookup_append, List.lookup_cons, skipped]

@[simp] theorem workingDirectory_put : (tree.put location entry).workingDirectory = tree.workingDirectory := by
  unfold put
  split <;> rfl

theorem isDirectory_iff : tree.isDirectory location = true ↔ tree.entryAt? location = some .directory := by
  simp [isDirectory]

end Entries

section Walks

variable {tree changed : FileTree} {location target : Location}

theorem isDirectory_of_walk {steps : List Text} (walked : tree.walk location steps = .ok target)
    (arrived : tree.isDirectory target = true) : tree.isDirectory location = true := by
  cases steps with
  | nil =>
      cases walked
      exact arrived
  | cons step steps =>
      unfold walk at walked
      split at walked
      next => cases walked
      next directory => simpa using directory

theorem walk_append (first second : List Text) :
    tree.walk location (first ++ second) =
      (tree.walk location first).bind fun middle => tree.walk middle second := by
  induction first generalizing location with
  | nil => rfl
  | cons step first ih =>
      simp only [List.cons_append, walk, ih]
      split
      next => rfl
      split
      next => rfl
      split
      next => rfl
      split
      next => rfl
      split <;> rfl

theorem walk_congr (kept : ∀ place, tree.isDirectory place = true → changed.isDirectory place = true)
    {steps : List Text} (walked : tree.walk location steps = .ok target)
    (arrived : tree.isDirectory target = true) : changed.walk location steps = .ok target := by
  induction steps generalizing location with
  | nil => exact walked
  | cons step steps ih =>
      have here := kept location (isDirectory_of_walk walked arrived)
      unfold walk at walked ⊢
      simp only [here, Bool.not_true, Bool.false_eq_true, if_false]
      split at walked
      next => cases walked
      split at walked
      next idle =>
        rw [if_pos idle]
        exact ih walked
      next notIdle =>
        rw [if_neg notIdle]
        split at walked
        next up =>
          rw [if_pos up]
          exact ih walked
        next notUp =>
          rw [if_neg notUp]
          split at walked
          next => cases walked
          next short =>
            rw [if_neg short]
            split at walked
            next => cases walked
            next =>
              have there := isDirectory_iff.mp (kept _ (isDirectory_of_walk walked arrived))
              simp only [there, Option.isNone_some, Bool.false_eq_true, if_false]
              exact ih walked

end Walks

section Moves

variable {tree changed : FileTree} {path : Path}

/-- Where a path leads to that names an entry of a directory, be it there or not. -/
structure Names (tree : FileTree) (path : Path) (root directory : Location) (name : Text) : Prop where
  started : tree.start path = .ok root
  walked : tree.walk root path.steps.dropLast = .ok directory
  arrived : tree.isDirectory directory = true
  last : path.steps.getLast? = some name
  proper : isIdleStep name = false
  short : isTooLong name = false
  ending : endsInSlash path = false

theorem start_congr (same : changed.workingDirectory = tree.workingDirectory) :
    changed.start path = tree.start path := by
  simp only [start, same]

theorem move_eq_ok {source : Location} (moved : tree.move source path = .ok changed) :
    ∃ root directory name entry, tree.Names path root directory name ∧
      tree.isDirectory (directory ++ [name]) = false ∧ tree.entryAt? source = some entry ∧
      changed = (tree.erase source).put (directory ++ [name]) entry := by
  simp only [move, findParent, bind_eq_ok_iff] at moved
  obtain ⟨⟨directory, name?⟩, ⟨root, started, location, walked, arrived⟩, placed⟩ := moved
  split at arrived
  next present =>
    cases arrived
    cases last : path.steps.getLast? with
    | none => simp [last] at placed
    | some name =>
        simp only [last] at placed
        split at placed
        next => cases placed
        next proper =>
          split at placed
          next => cases placed
          next short =>
            split at placed
            next => cases placed
            next ending =>
              split at placed
              next => cases placed
              next vacant =>
                split at placed
                next => cases placed
                next entry found =>
                  cases placed
                  exact ⟨root, directory, name, entry,
                    ⟨started, walked, present, last, by simpa using proper, by simpa using short,
                      by simpa using ending⟩, by simpa using vacant, found, rfl⟩
  next => cases arrived

theorem find_of_names {root directory : Location} {name : Text} {entry : Entry}
    (names : tree.Names path root directory name)
    (there : tree.entryAt? (directory ++ [name]) = some entry) :
    tree.find path = .ok (directory ++ [name], entry) := by
  obtain ⟨before, steps⟩ := List.getLast?_eq_some_iff.mp names.last
  have whole : tree.walk root path.steps = .ok (directory ++ [name]) := by
    have walked := names.walked
    have proper := names.proper
    rw [steps, List.dropLast_concat] at walked
    simp only [isIdleStep, Bool.or_eq_false_iff] at proper
    rw [steps, walk_append, walked]
    simp [Except.bind, walk, names.arrived, proper, names.short, there]
  simp [find, names.started, whole, there, names.ending, bind, Except.bind]

end Moves

end Termbase.FileTree
