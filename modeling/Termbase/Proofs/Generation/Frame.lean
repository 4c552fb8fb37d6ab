import Termbase.Proofs.FileTree.Preparation
import Termbase.Proofs.Generation.Loop

/-! Which files a run leaves alone. A step of the loop touches the module's own place and the place of the list
of modules; a run that fails leaves what the ontologies before the failure left, and at most one module more. -/

namespace Termbase

namespace Generation

variable {host : Host} {plan : GenerationPlan} {tree start changed : FileTree} {written paths : List Path} {path : Path}
variable {module : Draft} {modules : List Draft} {place : Location}

section Run

theorem tree_of_generateOne_error {error : GenerationError}
    (failed : (generateOne host plan tree written path).outcome = .error error) :
    (generateOne host plan tree written path).tree = tree ∨
      ∃ module, draft host plan tree written path = .ok module ∧ (write host plan tree module).outcome = .ok () ∧
        (generateOne host plan tree written path).tree = (write host plan tree module).tree ∧
        (register host plan (generateOne host plan tree written path).tree module).outcome = .error error := by
  cases drafted : draft host plan tree written path with
  | error error => simp [generateOne, drafted]
  | ok module =>
      cases wrote : (write host plan tree module).outcome with
      | error error =>
          simp only [generateOne, drafted, wrote]
          exact Or.inl (eq_of_write_error wrote)
      | ok =>
          cases registered : (register host plan (write host plan tree module).tree module).outcome with
          | error other =>
              simp only [generateOne, drafted, wrote, registered, Except.map, Except.error.injEq] at failed ⊢
              subst failed
              rw [eq_of_register_error registered]
              exact Or.inr ⟨module, rfl, wrote, rfl, registered⟩
          | ok => simp [generateOne, drafted, wrote, registered, Except.map] at failed

structure Kept (plan : GenerationPlan) (modules : List Draft) (start tree : FileTree) : Prop where
  sameDirectories : FileTree.SameDirectories start tree
  entryAt? : ∀ place, registerPlace? plan start ≠ some place →
    (∀ module ∈ modules, start.locate? module.path ≠ some place) → tree.entryAt? place = start.entryAt? place
  unforced : plan.force = false → ∀ place entry, registerPlace? plan start ≠ some place →
    start.entryAt? place = some entry → tree.entryAt? place = some entry

theorem Kept.refl (plan : GenerationPlan) (start : FileTree) : Kept plan [] start start :=
  ⟨.refl start, fun _ _ _ => rfl, fun _ _ _ _ there => there⟩

theorem Kept.write (kept : Kept plan modules start tree) (wrote : Wrote plan tree module changed) :
    Kept plan (modules ++ [module]) start changed := by
  refine ⟨kept.sameDirectories.trans wrote.sameDirectories, ?_, ?_⟩
  · intro place apart others
    rw [wrote.entryAt?, kept.entryAt? place apart]
    · exact fun module member => others module (List.mem_append_left _ member)
    · rw [kept.sameDirectories.locate?]
      exact others module (List.mem_append_right _ (List.mem_singleton_self module))
  · intro unforced place entry apart there
    exact wrote.entryAt?_unforced unforced (kept.unforced unforced place entry apart there)

theorem Kept.register (kept : Kept plan modules start tree) (registered : Registered plan tree module changed) :
    Kept plan modules start changed := by
  have still (place : Location) (apart : registerPlace? plan start ≠ some place) :
      changed.entryAt? place = tree.entryAt? place := by
    apply registered.entryAt?
    rw [registerPlace?_congr kept.sameDirectories]
    exact apart
  refine ⟨kept.sameDirectories.trans registered.sameDirectories, ?_, ?_⟩
  · intro place apart others
    rw [still place apart, kept.entryAt? place apart others]
  · intro unforced place entry apart there
    rw [still place apart, kept.unforced unforced place entry apart there]

theorem Handled.kept (handled : Handled host plan start paths modules tree) : Kept plan modules start tree := by
  induction handled with
  | nothing => exact .refl plan start
  | next _ generates ih =>
      obtain ⟨_, wrote, registered⟩ := generates.wrote
      exact (ih.write wrote).register registered

theorem Handled.drafted (handled : Handled host plan start paths modules tree) (member : module ∈ modules) :
    ∃ before path others base, before ++ [path] <+: paths ∧ Handled host plan start before others base ∧
      draft host plan base (others.map Draft.path) path = .ok module := by
  induction handled with
  | nothing => cases member
  | @next paths modules tree _ path last before generates ih =>
      rcases List.mem_append.mp member with earlier | latest
      · obtain ⟨first, other, others, base, listed, reached, found⟩ := ih earlier
        exact ⟨first, other, others, base, listed.trans (List.prefix_append paths [path]), reached, found⟩
      · cases List.mem_singleton.mp latest
        exact ⟨paths, path, modules, tree, List.prefix_rfl, before, generates.drafted⟩

end Run

/-- The module of one of the ontologies, as it is drafted after a run of only the ontologies before that one. -/
def Drafted (host : Host) (plan : GenerationPlan) (tree : FileTree) (module : Draft) : Prop :=
  ∃ before path, before ++ [path] <+: plan.ontologies ∧ (runOn host (plan.over before) tree).outcome = .ok () ∧
    draft host plan (runOn host (plan.over before) tree).tree [] path = .ok module

theorem drafted_of_handled {created : Bool} {before : List Path} {others : List Draft}
    (prepared : tree.ensureDirectory plan.outputDirectory = (.ok created, start))
    (listed : before ++ [path] <+: plan.ontologies) (handled : Handled host plan start before others changed)
    (drafted : draft host plan changed written path = .ok module) : Drafted host plan tree module := by
  refine ⟨before, path, listed, ?_, ?_⟩
  · rw [runOn_eq_generateAll host plan prepared, handled.outcome.1]
  · rw [runOn_eq_generateAll host plan prepared, handled.outcome.2]
    exact (draft_eq_ok_iff.mp drafted).1

theorem kept_run {created : Bool} (prepared : tree.ensureDirectory plan.outputDirectory = (.ok created, start)) :
    ∃ modules, (∀ module ∈ modules, Drafted host plan tree module) ∧
      Kept plan modules start (runOn host plan tree).tree := by
  have whole : runOn host plan tree = generateAll host plan start [] plan.ontologies :=
    runOn_eq_generateAll host plan prepared _
  rw [whole]
  have listed {paths : List Path} {modules : List Draft} {base : FileTree}
      (within : paths <+: plan.ontologies) (handled : Handled host plan start paths modules base) :
      ∀ module ∈ modules, Drafted host plan tree module := by
    intro module member
    obtain ⟨before, path, others, base, earlier, reached, drafted⟩ := handled.drafted member
    exact drafted_of_handled prepared (earlier.trans within) reached drafted
  -- A stopped run has one module more than it handled ontologies if it stopped at the declaration.
  rcases handled_or_stopped host plan start plan.ontologies with
    ⟨modules, base, handled⟩ | ⟨before, path, modules, base, error, stopped⟩
  · rw [handled.outcome.2]
    exact ⟨modules, listed List.prefix_rfl handled, handled.kept⟩
  · rw [stopped.outcome.2]
    have before := listed ((List.prefix_append _ _).trans stopped.listed) stopped.handled
    rcases tree_of_generateOne_error stopped.failed with left | ⟨module, drafted, succeeded, left, _⟩
    · rw [left]
      exact ⟨modules, before, stopped.handled.kept⟩
    · rw [left]
      refine ⟨modules ++ [module], ?_, stopped.handled.kept.write (wrote_of_write succeeded)⟩
      simp only [List.mem_append, List.mem_singleton]
      rintro other (earlier | rfl)
      · exact before other earlier
      · exact drafted_of_handled prepared stopped.listed stopped.handled drafted

/-- What a run leaves that failed at an ontology: what the ontologies before left, or that and the module. -/
structure FailedAt (host : Host) (plan : GenerationPlan) (tree : FileTree) (before : List Path) (path : Path)
    (error : GenerationError) : Prop where
  listed : before ++ [path] <+: plan.ontologies
  succeeded : (runOn host (plan.over before) tree).outcome = .ok ()
  failed : (runOn host (plan.over (before ++ [path])) tree).outcome = .error error
  left : (runOn host plan tree).tree = (runOn host (plan.over before) tree).tree ∨
    ∃ module, draft host plan (runOn host (plan.over before) tree).tree [] path = .ok module ∧
      (write host plan (runOn host (plan.over before) tree).tree module).outcome = .ok () ∧
      (runOn host plan tree).tree = (write host plan (runOn host (plan.over before) tree).tree module).tree ∧
      (register host plan (runOn host plan tree).tree module).outcome = .error error ∧
      ∀ place, (runOn host (plan.over before) tree).tree.locate? module.path ≠ some place →
        (runOn host plan tree).tree.entryAt? place = (runOn host (plan.over before) tree).tree.entryAt? place

theorem failedAt_of_run_error {created : Bool} {error : GenerationError}
    (prepared : tree.ensureDirectory plan.outputDirectory = (.ok created, start))
    (failed : (runOn host plan tree).outcome = .error error) :
    ∃ before path, FailedAt host plan tree before path error := by
  have whole : runOn host plan tree = generateAll host plan start [] plan.ontologies :=
    runOn_eq_generateAll host plan prepared _
  rcases handled_or_stopped host plan start plan.ontologies with
    ⟨modules, base, handled⟩ | ⟨before, path, modules, base, other, stopped⟩
  · rw [whole, handled.outcome.1] at failed
    cases failed
  · have here : Stopped host plan start (before ++ [path]) before path modules base other :=
      { stopped with listed := List.prefix_rfl }
    rw [whole, stopped.outcome.1] at failed
    cases failed
    refine ⟨before, path, stopped.listed, ?_, ?_, ?_⟩
    · rw [runOn_eq_generateAll host plan prepared, stopped.handled.outcome.1]
    · rw [runOn_eq_generateAll host plan prepared, here.outcome.1]
    · rw [whole, stopped.outcome.2, runOn_eq_generateAll host plan prepared, stopped.handled.outcome.2]
      rcases tree_of_generateOne_error stopped.failed with left | ⟨module, drafted, succeeded, left, registered⟩
      · exact Or.inl left
      · refine Or.inr ⟨module, (draft_eq_ok_iff.mp drafted).1, succeeded, left, registered, ?_⟩
        intro place differs
        rw [left, (wrote_of_write succeeded).entryAt? differs]

/-- Files are told by their places. A temporary file that remained would be one that is neither the list nor a
module. Any step of any write may be refused. -/
theorem run_touches_only_its_files (host : Host) (plan : GenerationPlan) (tree : FileTree) :
    (plan.force = false → ∀ place content, registerPlace? plan (runOn host plan tree).tree ≠ some place →
      tree.entryAt? place = some (.file content) →
        (runOn host plan tree).tree.entryAt? place = some (.file content)) ∧
    (∀ place content, registerPlace? plan (runOn host plan tree).tree ≠ some place →
      (∀ module, Drafted host plan tree module → (runOn host plan tree).tree.locate?
        (Path.join plan.outputDirectory (module.name ++ ".rs".toList)) ≠ some place) →
      ((runOn host plan tree).tree.entryAt? place = some (.file content) ↔
        tree.entryAt? place = some (.file content))) ∧
    ∀ error, (runOn host plan tree).outcome = .error error →
      (∃ cause, tree.ensureDirectory plan.outputDirectory = (.error cause, (runOn host plan tree).tree)) ∨
        ∃ before path, FailedAt host plan tree before path error := by
  have sameFiles := FileTree.sameFiles_ensureDirectory tree plan.outputDirectory
  rcases prepared : tree.ensureDirectory plan.outputDirectory with ⟨cause | created, start⟩
  · rw [prepared] at sameFiles
    have left : (runOn host plan tree).tree = start := by simp only [runOn, prepared]
    rw [left]
    refine ⟨?_, ?_, fun _ _ => Or.inl ⟨cause, rfl⟩⟩
    · exact fun _ place content _ there => (sameFiles.entryAt? place content).mpr there
    · exact fun place content _ _ => sameFiles.entryAt? place content
  · rw [prepared] at sameFiles
    obtain ⟨modules, drafted, kept⟩ := kept_run prepared
    rw [registerPlace?_congr kept.sameDirectories]
    refine ⟨?_, ?_, fun error failed => Or.inr (failedAt_of_run_error prepared failed)⟩
    · intro unforced place content apart there
      exact kept.unforced unforced place _ apart ((sameFiles.entryAt? place content).mpr there)
    · intro place content apart others
      rw [kept.entryAt? place apart, sameFiles.entryAt?]
      intro module member
      have known := drafted module member
      have named := others module known
      obtain ⟨before, path, _, _, found⟩ := known
      rw [← kept.sameDirectories.locate?, path_of_draft found]
      exact named

def smallOntology (name : Text) : List UInt8 :=
  let subject : Text := "<u:".toList ++ name ++ "> ".toList
  Utf8.encode (subject ++ "<http://www.w3.org/1999/02/22-rdf-syntax-ns#type> ".toList ++
    "<http://www.w3.org/2002/07/owl#Ontology> .\n".toList ++
    subject ++ "<http://purl.org/vocab/vann/preferredNamespaceUri> \"u:".toList ++ name ++ "#\" .\n".toList ++
    subject ++ "<http://purl.org/vocab/vann/preferredNamespacePrefix> \"".toList ++ name ++ "\" .\n".toList)

/-- The list of modules is a directory here, so that no module can be declared. -/
def unlistableTree : FileTree :=
  ⟨[], [(["a.nt".toList], .file (smallOntology ['a'])), (["lib.rs".toList], .directory)]⟩

def unlistablePlan : GenerationPlan :=
  ⟨["a.nt".toList], "out".toList, none, false, .source, false, some "lib.rs".toList⟩

def writtenTree : FileTree :=
  ⟨[], [(["a.nt".toList], .file (smallOntology ['a'])), (["out".toList], .directory),
    (["out".toList, "a.rs".toList], .file []), (["lib.rs".toList], .file [])]⟩

def fullHost : Host := { Host.plain with writes := .refusing .fill .busy }

theorem undeclared_module_is_left :
    ((run unlistablePlan unlistableTree).tree.entryAt? ["a.nt".toList] = some (.file (smallOntology ['a'])) ∧
      ∃ before path, FailedAt .plain unlistablePlan unlistableTree before path
        (.file (.shouldBeAFile "lib.rs".toList))) ∧
    (runOn fullHost unlistablePlan writtenTree).tree.entryAt? ["out".toList, "a.rs".toList] = some (.file []) ∧
      ∃ before path, FailedAt fullHost unlistablePlan writtenTree before path (.file .busy) := by
  constructor
  · have failed : (run unlistablePlan unlistableTree).outcome =
        .error (.file (.shouldBeAFile "lib.rs".toList)) := by
      decide +kernel
    have apart : registerPlace? unlistablePlan (run unlistablePlan unlistableTree).tree ≠
        some ["a.nt".toList] := by
      decide +kernel
    have created : (unlistableTree.ensureDirectory unlistablePlan.outputDirectory).1 = .ok true := by
      decide +kernel
    obtain ⟨kept, _, stopped⟩ := run_touches_only_its_files .plain unlistablePlan unlistableTree
    refine ⟨kept rfl _ _ apart rfl, ?_⟩
    rcases stopped _ failed with ⟨cause, refused⟩ | failedAt
    · rw [refused] at created
      cases created
    · exact failedAt
  · have failed : (runOn fullHost unlistablePlan writtenTree).outcome = .error (.file .busy) := by
      decide +kernel
    have apart : registerPlace? unlistablePlan (runOn fullHost unlistablePlan writtenTree).tree ≠
        some ["out".toList, "a.rs".toList] := by
      decide +kernel
    have existing : (writtenTree.ensureDirectory unlistablePlan.outputDirectory).1 = .ok false := by
      decide +kernel
    obtain ⟨kept, _, stopped⟩ := run_touches_only_its_files fullHost unlistablePlan writtenTree
    refine ⟨kept rfl _ _ apart rfl, ?_⟩
    rcases stopped _ failed with ⟨cause, refused⟩ | failedAt
    · rw [refused] at existing
      cases existing
    · exact failedAt

end Generation

end Termbase
