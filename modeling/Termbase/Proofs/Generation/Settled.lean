import Termbase.Proofs.Generation.Frame

/-! What a run leaves, said of the handled modules as a whole: at each place either a module's source, or the
list with all of them, or what was there. Nothing in it depends on the order of the modules, and neither does
whether an ontology can be handled. -/

namespace Termbase

namespace Generation

variable {host : Host} {plan : GenerationPlan} {start tree middle changed : FileTree} {paths : List Path} {path : Path}
variable {modules others : List Draft} {module : Draft} {names : List Text} {place : Location}

def moduleEntry (plan : GenerationPlan) (start : FileTree) (module : Draft) (place : Location) : Option Entry :=
  if plan.force = true ∨ start.entryAt? place = none then some (.file (Utf8.encode module.source))
  else start.entryAt? place

def Clear (plan : GenerationPlan) (start : FileTree) (modules : List Draft) (path : Path) : Prop :=
  ∀ place, start.locate? path = some place →
    registerPlace? plan start ≠ some place ∧ ∀ module ∈ modules, start.locate? module.path ≠ some place

/-- The tree after the modules were written and the names were declared. -/
structure Settled (plan : GenerationPlan) (start : FileTree) (modules : List Draft) (names : List Text)
    (tree : FileTree) : Prop extends Kept plan modules start tree where
  written : ∀ module ∈ modules, ∀ place, start.locate? module.path = some place →
    tree.entryAt? place = moduleEntry plan start module place
  listing : ∀ path place, plan.registerIn = some path → start.locate? path = some place →
    TermModule.ModuleList start path place names tree

/-- Every line of the list that is there can be written and read back. -/
def HasLines (plan : GenerationPlan) (start : FileTree) : Prop :=
  ∀ path text, plan.registerIn = some path → TermModule.currentText start path = .ok text →
    ∀ line ∈ Text.lines text, Text.IsLine line

theorem settled_nothing (plan : GenerationPlan) (start : FileTree) : Settled plan start [] [] start :=
  { Kept.refl plan start with
    written := fun _ member => absurd member List.not_mem_nil
    listing := fun path place _ _ => TermModule.moduleList_nothing start path place }

section Reading

theorem Kept.find (kept : Kept plan modules start tree) (clear : Clear plan start modules path)
    (leads : start.Leads path place) : tree.find path = start.find path := by
  obtain ⟨apart, others⟩ := clear place (FileTree.locate?_eq_some_iff.mpr leads)
  exact FileTree.find_congr kept.sameDirectories leads (kept.entryAt? place apart others)

theorem leads_of_draft {written : List Path} (drafted : draft host plan tree written path = .ok module) :
    ∃ place, tree.Leads path place := by
  simp only [draft, bind_eq_ok_iff, orFile_eq_ok_iff, FileTree.readFile] at drafted
  obtain ⟨document, ⟨reached, found, _⟩, _⟩ := drafted
  exact ⟨reached.1, FileTree.leads_of_find found⟩

theorem draft_congr (same : changed.find path = tree.find path) :
    draft host plan changed [] path = draft host plan tree [] path := by
  simp only [draft, FileTree.readFile_congr same]

theorem Kept.draft_eq_ok_iff (kept : Kept plan modules start tree) (clear : Clear plan start modules path) :
    draft host plan tree [] path = .ok module ↔ draft host plan start [] path = .ok module := by
  constructor
  · intro drafted
    obtain ⟨place, leads⟩ := leads_of_draft drafted
    rw [← draft_congr (kept.find clear (kept.sameDirectories.symm.leads leads))]
    exact drafted
  · intro drafted
    obtain ⟨place, leads⟩ := leads_of_draft drafted
    rw [draft_congr (kept.find clear leads)]
    exact drafted

end Reading

section Writing

theorem exists_wrote_congr (same : FileTree.SameDirectories tree changed)
    (kept : ∀ place, tree.Leads module.path place → changed.entryAt? place = tree.entryAt? place)
    (wrote : Wrote plan tree module middle) : ∃ other, Wrote plan changed module other := by
  have found {place : Location} (leads : tree.Leads module.path place) :
      changed.lookForFile module.path = tree.lookForFile module.path :=
    FileTree.lookForFile_congr (FileTree.find_congr same leads (kept place leads))
  cases wrote with
  | kept unforced present =>
      obtain ⟨place, content, reached⟩ := FileTree.lookForFile_eq_true_iff.mp present
      exact ⟨_, .kept unforced (by rw [found (FileTree.leads_of_find reached), present])⟩
  | put missing writable =>
      refine ⟨_, .put ?_ (same.writable writable)⟩
      rw [found writable.leads]
      exact missing

theorem Wrote.entryAt?_self (wrote : Wrote plan tree module changed) (located : tree.locate? module.path = some place) :
    changed.entryAt? place = moduleEntry plan tree module place := by
  cases wrote with
  | kept unforced present =>
      obtain ⟨other, content, reached⟩ := FileTree.lookForFile_eq_true_iff.mp present
      rw [FileTree.locate?_eq_some_iff.mpr (FileTree.leads_of_find reached)] at located
      cases located
      obtain ⟨_, _, _, there⟩ := FileTree.walk_of_find reached
      simp [moduleEntry, unforced, there]
  | put missing writable =>
      rw [writable.locate?] at located
      cases located
      rw [FileTree.entryAt?_put writable.proper, moduleEntry, if_pos]
      cases force : plan.force with
      | true => exact Or.inl rfl
      | false => exact Or.inr (entryAt?_of_lookForFile writable (missing force))

theorem Settled.write (settled : Settled plan start modules names tree)
    (clear : Clear plan start modules module.path) (wrote : Wrote plan tree module changed) :
    Settled plan start (modules ++ [module]) names changed := by
  have same := settled.sameDirectories
  have still {place : Location} (differs : start.locate? module.path ≠ some place) :
      changed.entryAt? place = tree.entryAt? place := by
    apply wrote.entryAt?
    rw [same.locate?]
    exact differs
  have list {path : Path} {place : Location} (registerIn : plan.registerIn = some path)
      (located : start.locate? path = some place) : start.locate? module.path ≠ some place := by
    intro there
    exact (clear place there).1 (by simp [registerPlace?, registerIn, located])
  refine { settled.toKept.write wrote with written := ?_, listing := ?_ }
  · intro other member place located
    rcases List.mem_append.mp member with before | last
    · rw [still fun there => (clear place there).2 other before located, settled.written other before place located]
    · cases List.mem_singleton.mp last
      rw [wrote.entryAt?_self (by rw [same.locate?, located]), moduleEntry, moduleEntry]
      have untouched := settled.entryAt? place (clear place located).1 fun other member =>
        (clear place located).2 other member
      rw [untouched]
  · -- The list is somewhere else than the module, so it is found as before.
    intro path place registerIn located
    obtain ⟨entry, current⟩ := settled.listing path place registerIn located
    have kept := still (list registerIn located)
    have leads := same.leads (FileTree.locate?_eq_some_iff.mp located)
    have found := FileTree.find_congr wrote.sameDirectories leads kept
    exact ⟨kept.trans entry, (TermModule.currentText_congr found).trans current⟩

end Writing

section Declaring

theorem Settled.register (settled : Settled plan start modules names tree) (lines : HasLines plan start)
    (unbroken : ∀ name ∈ names, '\n' ∉ name)
    (apart : ∀ module ∈ modules, ∀ place, start.locate? module.path = some place →
      registerPlace? plan start ≠ some place)
    (registered : Registered plan tree module changed) :
    Settled plan start modules (names ++ [module.name]) changed := by
  have same := settled.sameDirectories
  have still {place : Location} (differs : registerPlace? plan start ≠ some place) :
      changed.entryAt? place = tree.entryAt? place := by
    apply registered.entryAt?
    rw [registerPlace?_congr same]
    exact differs
  refine { settled.toKept.register registered with written := ?_, listing := ?_ }
  · intro other member place located
    rw [still (apart other member place located), settled.written other member place located]
  · intro path place registerIn located
    have before := settled.listing path place registerIn located
    rw [← same.locate?] at located
    rw [registered_listed_iff registerIn] at registered
    exact before.register (lines path · registerIn) unbroken located registered

theorem Settled.exists_registered_iff (settled : Settled plan start modules names tree) (lines : HasLines plan start)
    (unbroken : ∀ name ∈ names, '\n' ∉ name) (fresh : module.name ∉ names) :
    (∃ changed, Registered plan tree module changed) ↔ ∃ changed, Registered plan start module changed := by
  have same := settled.sameDirectories
  cases registerIn : plan.registerIn with
  | none => exact ⟨fun _ => ⟨_, .unlisted registerIn⟩, fun _ => ⟨_, .unlisted registerIn⟩⟩
  | some path =>
      simp only [registered_listed_iff registerIn]
      constructor
      · rintro ⟨changed, registered⟩
        obtain ⟨place, leads⟩ := registered.leads
        have listing := settled.listing path place registerIn
          (FileTree.locate?_eq_some_iff.mpr (same.symm.leads leads))
        exact (listing.exists_registered_iff same (lines path · registerIn) unbroken fresh).mp ⟨changed, registered⟩
      · rintro ⟨changed, registered⟩
        obtain ⟨place, leads⟩ := registered.leads
        have listing := settled.listing path place registerIn (FileTree.locate?_eq_some_iff.mpr leads)
        exact (listing.exists_registered_iff same (lines path · registerIn) unbroken fresh).mpr ⟨changed, registered⟩

end Declaring

end Generation

end Termbase
