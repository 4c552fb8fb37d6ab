import Termbase.Proofs.TermModule.Placement

/-! Modules declared one after the other: what the list holds in the end is settled by which modules they are, and
each that was not declared at the start has a line of its own. -/

namespace Termbase.TermModule

/-- A call for each of the modules, whether those before succeed or not: how the calls end, and the tree behind
the last one. -/
def registerEach (tree : FileTree) (path : Path) : List Text → List (Except FileError Bool) × FileTree
  | [] => ([], tree)
  | module :: rest =>
      let (outcome, changed) := register tree path module
      let (outcomes, last) := registerEach changed path rest
      (outcome :: outcomes, last)

def declarations (module : Text) (lines : List Text) : Nat :=
  lines.countP fun line => Text.trim line == declarationOf module

section Counted

variable {module other : Text} {lines modules : List Text}

theorem declarations_eq_zero_iff : declarations module lines = 0 ↔ isDeclared module lines = false := by
  simp [declarations, isDeclared, List.countP_eq_zero, List.any_eq_false]

theorem declarations_insertDeclaration :
    declarations other (insertDeclaration module lines) =
      declarations other lines + if other = module then 1 else 0 := by
  have same : (declarationOf module == declarationOf other) = decide (other = module) := by
    rw [Bool.eq_iff_iff, beq_iff_eq, decide_eq_true_iff]
    exact ⟨fun equal => (declarationOf_injective equal).symm, fun equal => by rw [equal]⟩
  conv_rhs => rw [declarations, ← List.take_append_drop (insertionPlace module lines) lines]
  simp only [declarations, insertDeclaration, List.countP_append, List.countP_cons, trim_declarationOf, same,
    decide_eq_true_eq]
  omega

theorem declarations_declare :
    declarations other (declare lines module) =
      if other = module ∧ declarations other lines = 0 then 1 else declarations other lines := by
  unfold declare
  split
  next declared =>
    rw [if_neg]
    rintro ⟨rfl, none⟩
    rw [declarations_eq_zero_iff, declared] at none
    cases none
  next undeclared =>
    rw [Bool.not_eq_true, ← declarations_eq_zero_iff] at undeclared
    rw [declarations_insertDeclaration]
    by_cases same : other = module
    · subst same
      simp [undeclared]
    · simp [same]

theorem declarations_foldl_declare :
    declarations other (modules.foldl declare lines) =
      if other ∈ modules ∧ declarations other lines = 0 then 1 else declarations other lines := by
  induction modules generalizing lines with
  | nil => simp
  | cons first modules ih =>
      rw [List.foldl_cons, ih, declarations_declare]
      simp only [List.mem_cons]
      by_cases same : other = first
      · subst same
        by_cases none : declarations other lines = 0
        · simp [none]
        · simp [none]
      · simp [same]

end Counted

section Calls

variable {start tree : FileTree} {path : Path} {place : Location} {text : Text} {names modules others : List Text}

theorem moduleList_registerEach (listing : ModuleList start path place names tree)
    (same : FileTree.SameDirectories start tree) (read : currentText start path = .ok text)
    (lines : ∀ line ∈ Text.lines text, Text.IsLine line) (writable : start.Writable path place)
    (unbroken : ∀ name ∈ names ++ modules, '\n' ∉ name) :
    (∀ outcome ∈ (registerEach tree path modules).1, ∃ added, outcome = .ok added) ∧
      ModuleList start path place (names ++ modules) (registerEach tree path modules).2 ∧
      FileTree.SameDirectories start (registerEach tree path modules).2 := by
  induction modules generalizing names tree with
  | nil =>
      rw [List.append_nil]
      exact ⟨by simp [registerEach], listing, same⟩
  | cons module rest ih =>
      have whole : ∀ text, currentText start path = .ok text → ∀ line ∈ Text.lines text, Text.IsLine line := by
        intro other current
        rw [read] at current
        cases current
        exact lines
      have before : ∀ name ∈ names, '\n' ∉ name := fun name member => unbroken name (List.mem_append_left _ member)
      have current : currentText tree path = .ok (listed names text) := by
        rw [listing.current, read]
        rfl
      obtain ⟨changed, registered⟩ := exists_registered_iff.mpr ⟨_, current, Or.inr ⟨place, same.writable writable⟩⟩
      have located : tree.locate? path = some place := (same.writable writable).locate?
      have next := listing.register whole before located registered
      have regrouped : names ++ module :: rest = names ++ [module] ++ rest := by simp
      rw [regrouped] at unbroken ⊢
      obtain ⟨succeeded, listed, directories⟩ := ih next (same.trans registered.sameDirectories) unbroken
      obtain ⟨added, found⟩ : ∃ added, register tree path module = (.ok added, changed) :=
        registered.exists_registerBy FileTree.WriteService.servesAll_smooth
      simp only [registerEach, found, List.forall_mem_cons]
      exact ⟨⟨⟨added, rfl⟩, succeeded⟩, listed, directories⟩

theorem registerEach_idle
    (idle : ∀ text place, currentText tree path = .ok text → ¬ tree.Writable path place) (modules : List Text) :
    (registerEach tree path modules).2 = tree := by
  have kept (module : Text) : (register tree path module).2 = tree := by
    cases registered : register tree path module with
    | mk outcome changed =>
        cases outcome with
        | error error => exact eq_of_registerBy_error registered
        | ok added =>
            cases registered_of_registerBy registered with
            | known => rfl
            | added read _ writable => exact absurd writable (idle _ _ read)
  induction modules with
  | nil => rfl
  | cons module rest ih =>
      simp only [registerEach, kept]
      exact ih

theorem find_registerEach_perm (perm : others.Perm modules) (read : currentText tree path = .ok text)
    (lines : ∀ line ∈ Text.lines text, Text.IsLine line) (writable : tree.Writable path place)
    (unbroken : ∀ name ∈ modules, '\n' ∉ name) :
    (registerEach tree path others).2.find path = (registerEach tree path modules).2.find path := by
  have nothing := moduleList_nothing tree path place
  have unbrokenOthers : ∀ name ∈ others, '\n' ∉ name := fun name member => unbroken name (perm.mem_iff.mp member)
  obtain ⟨_, first, sameFirst⟩ := moduleList_registerEach nothing (.refl tree) read lines writable unbroken
  obtain ⟨_, second, sameSecond⟩ :=
    moduleList_registerEach nothing (.refl tree) read lines writable unbrokenOthers
  apply FileTree.find_congr (sameFirst.symm.trans sameSecond) (sameFirst.leads writable.leads)
  rw [first.entry, second.entry, List.nil_append, List.nil_append, listEntry_perm perm]

/-- Whatever the order of the modules, the path finds the same file behind the calls. If the list can be read and
written all of them succeed, and each module that no line declared is declared on one line then. -/
theorem registrations_commute {tree : FileTree} {path : Path} {modules : List Text}
    (returns : ∀ text, currentText tree path = .ok text → Text.OnlyLineReturns text)
    (unbroken : ∀ module ∈ modules, '\n' ∉ module) :
    (∀ others : List Text, others.Perm modules →
        (registerEach tree path others).2.find path = (registerEach tree path modules).2.find path) ∧
      ∀ text place, currentText tree path = .ok text → tree.Writable path place →
        (∀ outcome ∈ (registerEach tree path modules).1, ∃ added, outcome = .ok added) ∧
          ∃ final, currentText (registerEach tree path modules).2 path = .ok final ∧
            ∀ module ∈ modules, declarations module (Text.lines text) = 0 →
              declarations module (Text.lines final) = 1 := by
  constructor
  · intro others perm
    by_cases able : ∃ text place, currentText tree path = .ok text ∧ tree.Writable path place
    · obtain ⟨text, place, read, writable⟩ := able
      exact find_registerEach_perm perm read (Text.isLine_of_mem_lines (returns text read)) writable unbroken
    · have idle : ∀ text place, currentText tree path = .ok text → ¬ tree.Writable path place :=
        fun text place read writable => able ⟨text, place, read, writable⟩
      rw [registerEach_idle idle, registerEach_idle idle]
  · intro text place read writable
    have lines := Text.isLine_of_mem_lines (returns text read)
    obtain ⟨succeeded, listing, _⟩ :=
      moduleList_registerEach (moduleList_nothing tree path place) (.refl tree) read lines writable unbroken
    refine ⟨succeeded, listed modules text, ?_, ?_⟩
    · rw [listing.current, read, List.nil_append]
      rfl
    · intro module member none
      rw [lines_listed lines unbroken, declarations_foldl_declare, if_pos ⟨member, none⟩]

end Calls

def unsortedText : Text := "pub mod c;\r\nuse x;\npub mod b;".toList

def unsortedTree : FileTree := ⟨[], [(["lib.rs".toList], .file (Utf8.encode unsortedText))]⟩

theorem modules_in_either_order :
    (registerEach unsortedTree "lib.rs".toList [['d'], ['a'], ['c']]).2.find "lib.rs".toList =
        (registerEach unsortedTree "lib.rs".toList [['c'], ['a'], ['d']]).2.find "lib.rs".toList ∧
      ∃ final, currentText (registerEach unsortedTree "lib.rs".toList [['c'], ['a'], ['d']]).2 "lib.rs".toList =
          .ok final ∧
        declarations ['a'] (Text.lines final) = 1 ∧ declarations ['d'] (Text.lines final) = 1 := by
  have read : currentText unsortedTree "lib.rs".toList = .ok unsortedText := ok_of_toOption (by decide +kernel)
  have returns : ∀ text, currentText unsortedTree "lib.rs".toList = .ok text → Text.OnlyLineReturns text := by
    intro text found
    rw [read] at found
    cases found
    decide +kernel
  have named : unsortedTree.Names "lib.rs".toList [] [] "lib.rs".toList :=
    ⟨ok_of_toOption (by decide +kernel), ok_of_toOption (by decide +kernel), by decide, by decide +kernel, by decide,
      by decide +kernel, by decide⟩
  have writable : unsortedTree.Writable "lib.rs".toList ["lib.rs".toList] :=
    ⟨⟨[], ok_of_toOption (by decide +kernel)⟩, ⟨_, _, _, named, rfl⟩, by decide +kernel⟩
  have unbroken : ∀ module ∈ [['c'], ['a'], ['d']], '\n' ∉ module := by decide
  obtain ⟨same, whole⟩ := registrations_commute returns unbroken
  obtain ⟨_, final, written, once⟩ := whole _ _ read writable
  have absent (module : Text) (fresh : module = ['a'] ∨ module = ['d']) :
      declarations module (Text.lines unsortedText) = 0 := by
    rcases fresh with rfl | rfl
    all_goals decide +kernel
  exact ⟨same _ (by decide), final, written, once _ (by decide) (absent _ (.inl rfl)),
    once _ (by decide) (absent _ (.inr rfl))⟩

end Termbase.TermModule
