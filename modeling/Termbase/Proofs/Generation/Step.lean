import Termbase.Generation
import Termbase.Proofs.TermModule.ModuleList

/-! What the handling of one ontology does to the tree when it succeeds: it keeps the module's file or puts it,
and it finds the module declared or declares it. A step that fails leaves the tree as it was. -/

namespace Termbase

def GenerationPlan.over (plan : GenerationPlan) (ontologies : List Path) : GenerationPlan :=
  { plan with ontologies := ontologies }

namespace Generation

variable {host : Host} {plan : GenerationPlan} {tree changed : FileTree} {written : List Path} {path : Path}
variable {module : Draft} {place : Location}

section Drafting

theorem orFile_eq_ok_iff {α : Type} {result : Except FileError α} {value : α} :
    orFile result = .ok value ↔ result = .ok value := by
  cases result with
  | error error => simp [orFile]
  | ok other => simp [orFile]

theorem draft_eq_ok_iff :
    draft host plan tree written path = .ok module ↔
      draft host plan tree [] path = .ok module ∧ written.any (Path.same module.path) = false := by
  simp only [draft, bind_eq_ok_iff]
  constructor
  · rintro ⟨document, read, content, parsed, outline, outlined, name, named, source, rendered, placed⟩
    split at placed
    next => cases placed
    next fresh =>
      cases placed
      refine ⟨⟨document, read, content, parsed, outline, outlined, name, named, source, rendered, ?_⟩, ?_⟩
      · simp [pure, Except.pure]
      · simpa using fresh
  · rintro ⟨⟨document, read, content, parsed, outline, outlined, name, named, source, rendered, placed⟩, fresh⟩
    refine ⟨document, read, content, parsed, outline, outlined, name, named, source, rendered, ?_⟩
    simp only [List.any_nil, Bool.false_eq_true, if_false, pure, Except.pure, Except.ok.injEq] at placed
    subst placed
    rw [if_neg (Bool.eq_false_iff.mp fresh)]
    rfl

theorem path_of_draft (drafted : draft host plan tree written path = .ok module) :
    module.path = Path.join plan.outputDirectory (module.name ++ ".rs".toList) := by
  simp only [draft, bind_eq_ok_iff] at drafted
  obtain ⟨document, _, content, _, outline, _, name, _, source, _, placed⟩ := drafted
  split at placed
  next => cases placed
  next =>
    cases placed
    rfl

end Drafting

section Writing

theorem entryAt?_of_lookForFile (writable : tree.Writable path place)
    (missing : tree.lookForFile path = .ok false) : tree.entryAt? place = none := by
  cases there : tree.entryAt? place with
  | none => rfl
  | some entry =>
      have found := writable.find there
      cases entry with
      | file content => simp [FileTree.lookForFile, found] at missing
      | directory =>
          have vacant := writable.vacant
          simp [FileTree.isDirectory, there] at vacant

inductive Wrote (plan : GenerationPlan) (tree : FileTree) (module : Draft) : FileTree → Prop
  | kept : plan.force = false → tree.lookForFile module.path = .ok true → Wrote plan tree module tree
  | put {place : Location} : (plan.force = false → tree.lookForFile module.path = .ok false) →
      tree.Writable module.path place → Wrote plan tree module (tree.put place (.file (Utf8.encode module.source)))

theorem wrote_of_write (succeeded : (write host plan tree module).outcome = .ok ()) :
    Wrote plan tree module (write host plan tree module).tree := by
  unfold write at succeeded ⊢
  dsimp only at succeeded ⊢
  split at succeeded
  next => cases succeeded
  next found =>
    split at found
    next => cases found
    next unforced => exact .kept (by simpa using unforced) found
  next missing =>
    rcases run : tree.writeAtomicallyBy host.writes module.path (Utf8.encode module.source) with ⟨_ | ⟨⟩, changed⟩
    · simp [run, orFile] at succeeded
    · obtain ⟨_, place, writable, rfl⟩ := FileTree.writeAtomicallyBy_eq_ok_iff.mp run
      refine .put ?_ writable
      intro unforced
      simpa [unforced] using missing

theorem eq_of_write_error {error : GenerationError} (failed : (write host plan tree module).outcome = .error error) :
    (write host plan tree module).tree = tree := by
  unfold write at failed ⊢
  dsimp only at failed ⊢
  split at failed
  next => rfl
  next => cases failed
  next =>
    rcases run : tree.writeAtomicallyBy host.writes module.path (Utf8.encode module.source) with ⟨_ | ⟨⟩, changed⟩
    · exact FileTree.eq_of_writeAtomicallyBy_error run
    · simp [run, orFile] at failed

namespace Wrote

theorem write_eq (wrote : Wrote plan tree module changed) (serving : host.writes.ServesAll) :
    (write host plan tree module).outcome = .ok () ∧ (write host plan tree module).tree = changed := by
  rcases wrote with ⟨unforced, found⟩ | ⟨missing, writable⟩
  · simp [write, unforced, found]
  · cases force : plan.force with
    | true => simp [write, force, writable.writeAtomicallyBy (serving _ _ _), orFile]
    | false => simp [write, force, missing force, writable.writeAtomicallyBy (serving _ _ _), orFile]

theorem sameDirectories (wrote : Wrote plan tree module changed) : FileTree.SameDirectories tree changed := by
  cases wrote with
  | kept => exact .refl tree
  | put _ writable => exact writable.sameDirectories _

theorem entryAt? (wrote : Wrote plan tree module changed) (differs : tree.locate? module.path ≠ some place) :
    changed.entryAt? place = tree.entryAt? place := by
  cases wrote with
  | kept => rfl
  | put _ writable => exact writable.entryAt?_put differs

theorem entryAt?_unforced (wrote : Wrote plan tree module changed) (unforced : plan.force = false) {entry : Entry}
    (there : tree.entryAt? place = some entry) : changed.entryAt? place = some entry := by
  cases wrote with
  | kept => exact there
  | put missing writable =>
      rw [FileTree.entryAt?_put_of_ne, there]
      rintro rfl
      rw [entryAt?_of_lookForFile writable (missing unforced)] at there
      cases there

end Wrote

end Writing

section Declaring

inductive Registered (plan : GenerationPlan) (tree : FileTree) (module : Draft) : FileTree → Prop
  | unlisted : plan.registerIn = none → Registered plan tree module tree
  | listed {path : Path} {changed : FileTree} : plan.registerIn = some path →
      TermModule.Registered tree path module.name changed → Registered plan tree module changed

theorem registered_listed_iff (registerIn : plan.registerIn = some path) :
    Registered plan tree module changed ↔ TermModule.Registered tree path module.name changed := by
  constructor
  · rintro (unlisted | ⟨other, registered⟩)
    · rw [registerIn] at unlisted
      cases unlisted
    · rw [registerIn] at other
      cases other
      exact registered
  · exact .listed registerIn

theorem registered_of_register (succeeded : (register host plan tree module).outcome = .ok ()) :
    Registered plan tree module (register host plan tree module).tree := by
  unfold register at succeeded ⊢
  cases registerIn : plan.registerIn with
  | none => exact .unlisted registerIn
  | some path =>
      simp only [registerIn] at succeeded ⊢
      rcases run : TermModule.registerBy host.writes tree path module.name with ⟨_ | added, changed⟩
      · simp [run] at succeeded
      · exact .listed registerIn (TermModule.registered_of_registerBy run)

theorem eq_of_register_error {error : GenerationError}
    (failed : (register host plan tree module).outcome = .error error) :
    (register host plan tree module).tree = tree := by
  cases registerIn : plan.registerIn with
  | none => simp [register, registerIn] at failed
  | some path =>
      simp only [register, registerIn] at failed ⊢
      rcases run : TermModule.registerBy host.writes tree path module.name with ⟨_ | added, changed⟩
      · exact TermModule.eq_of_registerBy_error run
      · simp [run] at failed

def registerPlace? (plan : GenerationPlan) (tree : FileTree) : Option Location :=
  plan.registerIn.bind tree.locate?

theorem registerPlace?_congr (same : FileTree.SameDirectories tree changed) :
    registerPlace? plan changed = registerPlace? plan tree := by
  cases registerIn : plan.registerIn with
  | none => simp [registerPlace?, registerIn]
  | some path => simpa [registerPlace?, registerIn] using same.locate? path

namespace Registered

theorem register_eq (registered : Registered plan tree module changed) (serving : host.writes.ServesAll) :
    (register host plan tree module).outcome = .ok () ∧ (register host plan tree module).tree = changed := by
  rcases registered with unlisted | ⟨registerIn, registered⟩
  · simp [register, unlisted]
  · obtain ⟨added, run⟩ := registered.exists_registerBy serving
    simp [register, registerIn, run]

theorem sameDirectories (registered : Registered plan tree module changed) :
    FileTree.SameDirectories tree changed := by
  cases registered with
  | unlisted => exact .refl tree
  | listed _ registered => exact registered.sameDirectories

theorem entryAt? (registered : Registered plan tree module changed)
    (differs : registerPlace? plan tree ≠ some place) : changed.entryAt? place = tree.entryAt? place := by
  cases registered with
  | unlisted => rfl
  | listed registerIn registered =>
      rw [registerPlace?, registerIn] at differs
      exact registered.entryAt? differs

end Registered

end Declaring

end Generation

end Termbase
