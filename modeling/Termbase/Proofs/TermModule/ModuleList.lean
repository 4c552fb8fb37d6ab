import Termbase.Proofs.FileTree.Replacement
import Termbase.Proofs.TermModule.Registration

/-! The list of modules as a file: a declaration finds its line there or writes the whole file anew, and what it
leaves is the text with all declared modules. -/

namespace Termbase.TermModule

section Tree

variable {tree changed : FileTree} {path : Path} {place : Location} {module text : Text}
variable {service : FileTree.WriteService}

inductive Registered (tree : FileTree) (path : Path) (module : Text) : FileTree → Prop
  | known {text : Text} : currentText tree path = .ok text → isDeclared module (Text.lines text) = true →
      Registered tree path module tree
  | added {text updated : Text} {place : Location} : currentText tree path = .ok text →
      declaredIn? module text = some updated → tree.Writable path place →
      Registered tree path module (tree.put place (.file (Utf8.encode updated)))

theorem registered_of_registerBy {added : Bool}
    (registered : registerBy service tree path module = (.ok added, changed)) :
    Registered tree path module changed := by
  unfold registerBy at registered
  split at registered
  next => cases registered
  next text read =>
    split at registered
    next declared =>
      cases registered
      exact .known read (declaredIn?_eq_none_iff.mp declared)
    next updated found =>
      split at registered
      next written =>
        cases registered
        obtain ⟨_, place, writable, rfl⟩ := FileTree.writeAtomicallyBy_eq_ok_iff.mp written
        exact .added read found writable
      next => cases registered

theorem Registered.exists_registerBy (registered : Registered tree path module changed) (serving : service.ServesAll) :
    ∃ added, registerBy service tree path module = (.ok added, changed) := by
  cases registered with
  | known read declared => exact ⟨false, by simp only [registerBy, read, declaredIn?_eq_none_iff.mpr declared]⟩
  | added read updated writable =>
      exact ⟨true, by simp only [registerBy, read, updated, writable.writeAtomicallyBy (serving _ _ _)]⟩

theorem eq_of_registerBy_error {error : FileError}
    (failed : registerBy service tree path module = (.error error, changed)) : changed = tree := by
  unfold registerBy at failed
  split at failed
  next => exact (Prod.mk.inj failed).2.symm
  next =>
    split at failed
    next => cases failed
    next =>
      split at failed
      next => cases failed
      next _ _ _ written =>
        obtain ⟨_, rfl⟩ := Prod.mk.inj failed
        exact FileTree.eq_of_writeAtomicallyBy_error written

theorem currentText_congr (same : changed.find path = tree.find path) :
    currentText changed path = currentText tree path := by
  simp only [currentText, FileTree.lookForFile_congr same, FileTree.readText_congr same]

theorem currentText_put {place : Location} (writable : tree.Writable path place) (text : Text) :
    currentText (tree.put place (.file (Utf8.encode text))) path = .ok text := by
  have found : (tree.put place (.file (Utf8.encode text))).find path = .ok (place, .file (Utf8.encode text)) :=
    ((writable.sameDirectories _).writable writable).find (FileTree.entryAt?_put writable.proper)
  simp [currentText, FileTree.lookForFile, FileTree.readText, FileTree.readFile, found, bind, Except.bind]

theorem leads_of_currentText {text : Text} (read : currentText tree path = .ok text) (proper : text ≠ []) :
    ∃ place, tree.Leads path place := by
  simp only [currentText, bind_eq_ok_iff] at read
  obtain ⟨looked, found, read⟩ := read
  cases looked with
  | true =>
      obtain ⟨place, content, reached⟩ := FileTree.lookForFile_eq_true_iff.mp found
      exact ⟨place, FileTree.leads_of_find reached⟩
  | false =>
      cases read
      exact absurd rfl proper

namespace Registered

theorem sameDirectories (registered : Registered tree path module changed) :
    FileTree.SameDirectories tree changed := by
  cases registered with
  | known => exact .refl tree
  | added _ _ writable => exact writable.sameDirectories _

theorem entryAt? (registered : Registered tree path module changed) (differs : tree.locate? path ≠ some place) :
    changed.entryAt? place = tree.entryAt? place := by
  cases registered with
  | known => rfl
  | added _ _ writable => exact writable.entryAt?_put differs

theorem leads (registered : Registered tree path module changed) : ∃ place, tree.Leads path place := by
  cases registered with
  | known read declared =>
      apply leads_of_currentText read
      rintro rfl
      cases declared
  | added _ _ writable => exact ⟨_, writable.leads⟩

end Registered

theorem exists_registered_iff :
    (∃ changed, Registered tree path module changed) ↔
      ∃ text, currentText tree path = .ok text ∧
        (isDeclared module (Text.lines text) = true ∨ ∃ place, tree.Writable path place) := by
  constructor
  · rintro ⟨changed, ⟨read, declared⟩ | ⟨read, _, writable⟩⟩
    · exact ⟨_, read, Or.inl declared⟩
    · exact ⟨_, read, Or.inr ⟨_, writable⟩⟩
  · rintro ⟨text, read, able⟩
    cases found : declaredIn? module text with
    | none => exact ⟨tree, .known read (declaredIn?_eq_none_iff.mp found)⟩
    | some updated =>
        rcases able with declared | ⟨place, writable⟩
        · rw [declaredIn?_eq_none_iff.mpr declared] at found
          cases found
        · exact ⟨_, .added read found writable⟩

end Tree

section ModuleList

variable {start tree changed : FileTree} {path : Path} {place : Location} {module : Text} {names : List Text}

def listEntry (start : FileTree) (path : Path) (place : Location) (names : List Text) : Option Entry :=
  match currentText start path with
  | .error _ => start.entryAt? place
  | .ok text =>
      if names.all (isDeclared · (Text.lines text)) then start.entryAt? place
      else some (.file (Utf8.encode (listed names text)))

theorem listEntry_perm {others : List Text} (perm : others.Perm names) (path : Path) (place : Location) :
    listEntry start path place others = listEntry start path place names := by
  unfold listEntry
  split
  next => rfl
  next text _ => rw [listed_perm perm, perm.all_eq]

/-- The list of modules as it was at the start, with some more names declared. -/
structure ModuleList (start : FileTree) (path : Path) (place : Location) (names : List Text) (tree : FileTree) :
    Prop where
  entry : tree.entryAt? place = listEntry start path place names
  current : currentText tree path = (currentText start path).map (listed names)

theorem moduleList_nothing (start : FileTree) (path : Path) (place : Location) : ModuleList start path place [] start := by
  constructor
  · unfold listEntry
    split
    next => rfl
    next => rfl
  · cases currentText start path with
    | error error => rfl
    | ok text => rfl

theorem ModuleList.text_of_currentText {text : Text} (listing : ModuleList start path place names tree)
    (read : currentText tree path = .ok text) :
    ∃ before, currentText start path = .ok before ∧ text = listed names before := by
  rw [listing.current] at read
  cases current : currentText start path with
  | error error => simp [current, Except.map] at read
  | ok before =>
      rw [current] at read
      cases read
      exact ⟨before, rfl, rfl⟩

theorem ModuleList.declares {text : Text} (listing : ModuleList start path place names tree)
    (lines : ∀ text, currentText start path = .ok text → ∀ line ∈ Text.lines text, Text.IsLine line)
    (unbroken : ∀ name ∈ names, '\n' ∉ name) (read : currentText tree path = .ok text) (member : module ∈ names) :
    isDeclared module (Text.lines text) = true := by
  obtain ⟨before, current, rfl⟩ := listing.text_of_currentText read
  rw [lines_listed (lines before current) unbroken]
  exact isDeclared_foldl_declare.mpr (Or.inl member)

theorem ModuleList.register (listing : ModuleList start path place names tree)
    (lines : ∀ text, currentText start path = .ok text → ∀ line ∈ Text.lines text, Text.IsLine line)
    (unbroken : ∀ name ∈ names, '\n' ∉ name) (located : tree.locate? path = some place)
    (registered : Registered tree path module changed) : ModuleList start path place (names ++ [module]) changed := by
  cases registered with
  | known read declared =>
      obtain ⟨text, current, rfl⟩ := listing.text_of_currentText read
      have appended := listed_append (lines text current) unbroken module
      rw [declaredIn?_eq_none_iff.mpr declared, Option.getD_none] at appended
      refine ⟨?_, by rw [read, current, Except.map, appended]⟩
      rw [listing.entry, listEntry, listEntry, current]
      dsimp only
      by_cases all : names.all (isDeclared · (Text.lines text)) = true
      · have same : listed names text = text := if_pos all
        rw [same] at declared
        simp only [List.all_append, all, declared, List.all_cons, List.all_nil, Bool.and_self, if_true]
      · rw [appended]
        simp only [List.all_append, all, Bool.false_and]
  | added read updated writable =>
      obtain ⟨text, current, rfl⟩ := listing.text_of_currentText read
      have appended := listed_append (lines text current) unbroken module
      rw [updated, Option.getD_some] at appended
      obtain ⟨undeclared, _⟩ := declaredIn?_eq_some_iff.mp updated
      have unknown : ¬ isDeclared module (Text.lines text) = true := by
        intro declared
        rw [lines_listed (lines text current) unbroken, isDeclared_foldl_declare.mpr (Or.inr declared)] at undeclared
        cases undeclared
      rw [writable.locate?] at located
      cases located
      refine ⟨?_, by rw [currentText_put writable, current, Except.map, appended]⟩
      rw [FileTree.entryAt?_put writable.proper, listEntry, current, appended]
      simp [unknown]

theorem ModuleList.exists_registered_iff (listing : ModuleList start path place names tree)
    (same : FileTree.SameDirectories start tree)
    (lines : ∀ text, currentText start path = .ok text → ∀ line ∈ Text.lines text, Text.IsLine line)
    (unbroken : ∀ name ∈ names, '\n' ∉ name) (fresh : module ∉ names) :
    (∃ changed, Registered tree path module changed) ↔ ∃ changed, Registered start path module changed := by
  rw [TermModule.exists_registered_iff, TermModule.exists_registered_iff]
  have declared {text : Text} (current : currentText start path = .ok text) :
      isDeclared module (Text.lines (listed names text)) = true ↔ isDeclared module (Text.lines text) = true := by
    rw [lines_listed (lines text current) unbroken, isDeclared_foldl_declare, or_iff_right fresh]
  constructor
  · rintro ⟨_, read, able⟩
    obtain ⟨text, current, rfl⟩ := listing.text_of_currentText read
    rw [declared current] at able
    exact ⟨text, current, able.imp_right fun ⟨place, writable⟩ => ⟨place, same.symm.writable writable⟩⟩
  · rintro ⟨text, current, able⟩
    rw [← declared current] at able
    refine ⟨listed names text, ?_, able.imp_right fun ⟨place, writable⟩ => ⟨place, same.writable writable⟩⟩
    rw [listing.current, current]
    rfl

end ModuleList

end Termbase.TermModule
