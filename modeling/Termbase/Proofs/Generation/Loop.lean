import Mathlib.Data.List.Induction
import Termbase.Proofs.Generation.Step

/-! The loop over the ontologies: how far a run got, which modules it drafted on the way, and the tree it left
there. A run that fails stops at one ontology, and what follows it plays no part. -/

namespace Termbase

namespace Generation

variable {host : Host} {plan : GenerationPlan} {tree start changed : FileTree} {paths : List Path}
variable {path target : Path} {modules : List Draft} {module : Draft}

structure Generates (host : Host) (plan : GenerationPlan) (tree : FileTree) (written : List Path) (path : Path)
    (module : Draft) (changed : FileTree) : Prop where
  drafted : draft host plan tree written path = .ok module
  outcome : (generateOne host plan tree written path).outcome = .ok module.path
  left : (generateOne host plan tree written path).tree = changed

section One

variable {written : List Path}

theorem exists_generates (succeeded : (generateOne host plan tree written path).outcome = .ok target) :
    ∃ module, Generates host plan tree written path module (generateOne host plan tree written path).tree := by
  cases drafted : draft host plan tree written path with
  | error error => simp [generateOne, drafted] at succeeded
  | ok module =>
      refine ⟨module, drafted, ?_, rfl⟩
      unfold generateOne at succeeded ⊢
      simp only [drafted] at succeeded ⊢
      split at succeeded
      next => cases succeeded
      next =>
        cases registered : (register host plan (write host plan tree module).tree module).outcome with
        | error error => simp [registered, Except.map] at succeeded
        | ok => simp [Except.map]

theorem Generates.wrote (generates : Generates host plan tree written path module changed) :
    ∃ middle, Wrote plan tree module middle ∧ Registered plan middle module changed := by
  obtain ⟨drafted, succeeded, rfl⟩ := generates
  cases wrote : (write host plan tree module).outcome with
  | error error => simp [generateOne, drafted, wrote] at succeeded
  | ok =>
      refine ⟨_, wrote_of_write wrote, ?_⟩
      cases registered : (register host plan (write host plan tree module).tree module).outcome with
      | error error => simp [generateOne, drafted, wrote, registered, Except.map] at succeeded
      | ok =>
          simp only [generateOne, drafted, wrote]
          exact registered_of_register registered

theorem generates_of_wrote {middle : FileTree} (serving : host.writes.ServesAll)
    (drafted : draft host plan tree written path = .ok module) (wrote : Wrote plan tree module middle)
    (registered : Registered plan middle module changed) :
    Generates host plan tree written path module changed := by
  obtain ⟨writes, written⟩ := wrote.write_eq serving
  obtain ⟨registers, left⟩ := registered.register_eq serving
  subst written
  exact ⟨drafted, by simp [generateOne, drafted, writes, registers, Except.map],
    by simp [generateOne, drafted, writes, left]⟩

end One

inductive Handled (host : Host) (plan : GenerationPlan) (start : FileTree) :
    List Path → List Draft → FileTree → Prop
  | nothing : Handled host plan start [] [] start
  | next {paths : List Path} {modules : List Draft} {tree changed : FileTree} {path : Path} {module : Draft} :
      Handled host plan start paths modules tree →
      Generates host plan tree (modules.map Draft.path) path module changed →
      Handled host plan start (paths ++ [path]) (modules ++ [module]) changed

theorem generateAll_of_handled (handled : Handled host plan start paths modules tree) (rest : List Path) :
    (generateAll host plan start [] (paths ++ rest)).outcome =
        (generateAll host plan tree (modules.map Draft.path) rest).outcome ∧
      (generateAll host plan start [] (paths ++ rest)).tree =
        (generateAll host plan tree (modules.map Draft.path) rest).tree := by
  induction handled generalizing rest with
  | nothing => exact ⟨rfl, rfl⟩
  | @next paths modules tree changed path module before generates ih =>
      -- The last handled ontology is the first one that the loop meets after the others.
      have reached := ih (path :: rest)
      simp only [generateAll, generates.outcome, generates.left] at reached
      rw [List.append_assoc, List.map_append]
      exact reached

theorem Handled.outcome (handled : Handled host plan start paths modules tree) :
    (generateAll host plan start [] paths).outcome = .ok () ∧ (generateAll host plan start [] paths).tree = tree := by
  have reached := generateAll_of_handled handled []
  rw [List.append_nil] at reached
  exact reached

structure Stopped (host : Host) (plan : GenerationPlan) (start : FileTree) (paths before : List Path) (path : Path)
    (modules : List Draft) (tree : FileTree) (error : GenerationError) : Prop where
  listed : before ++ [path] <+: paths
  handled : Handled host plan start before modules tree
  failed : (generateOne host plan tree (modules.map Draft.path) path).outcome = .error error

theorem Stopped.outcome {before : List Path} {error : GenerationError}
    (stopped : Stopped host plan start paths before path modules tree error) :
    (generateAll host plan start [] paths).outcome = .error error ∧
      (generateAll host plan start [] paths).tree =
        (generateOne host plan tree (modules.map Draft.path) path).tree := by
  obtain ⟨⟨after, rfl⟩, handled, failed⟩ := stopped
  have reached := generateAll_of_handled handled (path :: after)
  simp only [generateAll, failed] at reached
  rw [List.append_assoc]
  exact reached

theorem handled_or_stopped (host : Host) (plan : GenerationPlan) (start : FileTree) (paths : List Path) :
    (∃ modules tree, Handled host plan start paths modules tree) ∨
      ∃ before path modules tree error, Stopped host plan start paths before path modules tree error := by
  induction paths using List.reverseRecOn with
  | nil => exact Or.inl ⟨[], start, .nothing⟩
  | append_singleton paths path ih =>
      rcases ih with ⟨modules, tree, handled⟩ | ⟨before, other, modules, tree, error, stopped⟩
      · cases one : (generateOne host plan tree (modules.map Draft.path) path).outcome with
        | error error => exact Or.inr ⟨paths, path, modules, tree, error, List.prefix_rfl, handled, one⟩
        | ok target =>
            obtain ⟨module, generates⟩ := exists_generates one
            exact Or.inl ⟨_, _, .next handled generates⟩
      · have listed := stopped.listed.trans (List.prefix_append paths [path])
        exact Or.inr ⟨before, other, modules, tree, error, { stopped with listed := listed }⟩

theorem generateAll_eq_ok_iff :
    (generateAll host plan start [] paths).outcome = .ok () ∧ (generateAll host plan start [] paths).tree = tree ↔
      ∃ modules, Handled host plan start paths modules tree := by
  constructor
  · rintro ⟨succeeded, left⟩
    rcases handled_or_stopped host plan start paths with
      ⟨modules, reached, handled⟩ | ⟨before, path, modules, reached, error, stopped⟩
    · rw [handled.outcome.2] at left
      rw [← left]
      exact ⟨modules, handled⟩
    · rw [stopped.outcome.1] at succeeded
      cases succeeded
  · rintro ⟨modules, handled⟩
    exact handled.outcome

section Plan

theorem generateAll_over (host : Host) (plan : GenerationPlan) (ontologies : List Path) (tree : FileTree)
    (written paths : List Path) :
    generateAll host (plan.over ontologies) tree written paths = generateAll host plan tree written paths := by
  induction paths generalizing tree written with
  | nil => rfl
  | cons path paths ih =>
      have one : generateOne host (plan.over ontologies) tree written path =
          generateOne host plan tree written path := rfl
      simp only [generateAll, one, ih]

theorem runOn_eq_generateAll (host : Host) (plan : GenerationPlan) {created : Bool}
    (prepared : tree.ensureDirectory plan.outputDirectory = (.ok created, start)) (paths : List Path) :
    runOn host (plan.over paths) tree = generateAll host plan start [] paths := by
  rw [← generateAll_over host plan paths]
  simp only [runOn, GenerationPlan.over, prepared]

end Plan

end Generation

end Termbase
