import Termbase.Proofs.Generation.Settled
import Termbase.Proofs.Ontology.LabelOrder

/-! A run whose files are all different does not depend on the order of its ontologies: each of them can be handled
if it can be handled alone, and what the run leaves is settled by the modules as a whole. It does not depend on the
host either, as long as the modules are the same. -/

namespace Termbase

namespace Generation

variable {host : Host} {plan : GenerationPlan} {start tree : FileTree} {paths more : List Path} {path : Path}
variable {modules before : List Draft} {module : Draft}

/-- The ontology could be handled as the first one. -/
structure Alone (host : Host) (plan : GenerationPlan) (start : FileTree) (path : Path) (module : Draft) : Prop where
  drafted : draft host plan start [] path = .ok module
  wrote : ∃ changed, Wrote plan start module changed
  registered : ∃ changed, Registered plan start module changed

/-- The modules of the ontologies, as far as they can be drafted. -/
def drafts (host : Host) (plan : GenerationPlan) (tree : FileTree) (paths : List Path) : List Draft :=
  paths.filterMap fun path => (draft host plan tree [] path).toOption

/-- The files that a run has to do with: the ontologies, their modules and the list of modules. -/
def files (host : Host) (plan : GenerationPlan) (tree : FileTree) (paths : List Path) : List Path :=
  paths ++ (drafts host plan tree paths).map Draft.path ++ plan.registerIn.toList

/-- The files of a run are different ones, and its module names and its list consist of whole lines. -/
structure Proper (host : Host) (plan : GenerationPlan) (start : FileTree) (paths : List Path) : Prop where
  apart : (files host plan start paths).Pairwise start.Apart
  unbroken : ∀ module ∈ drafts host plan start paths, '\n' ∉ module.name
  lines : HasLines plan start

theorem mem_drafts :
    module ∈ drafts host plan start paths ↔ ∃ path ∈ paths, draft host plan start [] path = .ok module := by
  simp only [drafts, List.mem_filterMap, toOption_eq_some_iff]

theorem drafts_append (first second : List Path) :
    drafts host plan start (first ++ second) = drafts host plan start first ++ drafts host plan start second :=
  List.filterMap_append

theorem drafts_concat (paths : List Path) (drafted : draft host plan start [] path = .ok module) :
    drafts host plan start (paths ++ [path]) = drafts host plan start paths ++ [module] := by
  simp [drafts, drafted, Except.toOption]

namespace Proper

theorem initial (proper : Proper host plan start (paths ++ more)) : Proper host plan start paths := by
  have within := List.sublist_append_left paths more
  have drafted : (drafts host plan start paths).Sublist (drafts host plan start (paths ++ more)) := within.filterMap _
  refine ⟨proper.apart.sublist ?_, ?_, proper.lines⟩
  · exact (within.append (drafted.map Draft.path)).append (List.Sublist.refl _)
  · exact fun module member => proper.unbroken module (drafted.subset member)

theorem perm (proper : Proper host plan start paths) (perm : more.Perm paths) : Proper host plan start more := by
  have drafted : (drafts host plan start more).Perm (drafts host plan start paths) := perm.filterMap _
  refine ⟨?_, ?_, proper.lines⟩
  · have same : (files host plan start more).Perm (files host plan start paths) :=
      (perm.append (drafted.map Draft.path)).append_right _
    refine (same.pairwise_iff ?_).mpr proper.apart
    intro left right apart place located other
    exact apart place other located
  · exact fun module member => proper.unbroken module (drafted.mem_iff.mp member)

theorem registerPlace?_ne (proper : Proper host plan start paths)
    (listed : path ∈ paths ++ (drafts host plan start paths).map Draft.path) {place : Location}
    (located : start.locate? path = some place) : registerPlace? plan start ≠ some place := by
  intro same
  obtain ⟨list, registerIn, also⟩ := Option.bind_eq_some_iff.mp same
  have apart := (List.pairwise_append.mp proper.apart).2.2 path listed list (by simp [registerIn])
  exact apart place located also

theorem unbroken_names (proper : Proper host plan start paths) :
    ∀ name ∈ (drafts host plan start paths).map Draft.name, '\n' ∉ name := by
  intro name member
  obtain ⟨module, known, rfl⟩ := List.mem_map.mp member
  exact proper.unbroken module known

theorem clear_input (proper : Proper host plan start paths) (member : path ∈ paths)
    (within : ∀ module ∈ modules, module ∈ drafts host plan start paths) : Clear plan start modules path := by
  intro place located
  refine ⟨proper.registerPlace?_ne (List.mem_append_left _ member) located, ?_⟩
  intro module known
  have apart := (List.pairwise_append.mp (List.pairwise_append.mp proper.apart).1).2.2
  exact apart path member module.path (List.mem_map_of_mem (within module known)) place located

theorem clear_output (proper : Proper host plan start paths)
    (drafted : drafts host plan start paths = modules ++ [module]) :
    Clear plan start modules module.path := by
  intro place located
  constructor
  · refine proper.registerPlace?_ne (List.mem_append_right _ ?_) located
    rw [drafted]
    simp
  · intro other member there
    have outputs := (List.pairwise_append.mp (List.pairwise_append.mp proper.apart).1).2.1
    rw [drafted, List.map_append] at outputs
    have apart := (List.pairwise_append.mp outputs).2.2 other.path (List.mem_map_of_mem member) module.path
      (by simp)
    exact apart place there located

end Proper

theorem not_mem_names (drafted : draft host plan start [] path = .ok module)
    (fresh : ((drafts host plan start paths).map Draft.path).any (Path.same module.path) = false) :
    module.name ∉ (drafts host plan start paths).map Draft.name := by
  intro member
  obtain ⟨other, present, same⟩ := List.mem_map.mp member
  obtain ⟨source, _, found⟩ := mem_drafts.mp present
  have differs := List.any_eq_false.mp fresh other.path (List.mem_map_of_mem present)
  rw [path_of_draft drafted, path_of_draft found, same] at differs
  exact differs (by simp [Path.same])

section Step

variable {middle changed : FileTree} (proper : Proper host plan start (paths ++ [path]))
  (settled : Settled plan start (drafts host plan start paths) ((drafts host plan start paths).map Draft.name) tree)
include proper

theorem Proper.clear_next : Clear plan start (drafts host plan start paths) path := by
  apply proper.clear_input (List.mem_append_right _ (List.mem_singleton_self path))
  rw [drafts_append]
  exact fun module member => List.mem_append_left _ member

theorem Proper.clear_module (drafted : draft host plan start [] path = .ok module) :
    Clear plan start (drafts host plan start paths) module.path :=
  proper.clear_output (drafts_concat paths drafted)

include settled

theorem Settled.handles_iff (drafted : draft host plan start [] path = .ok module)
    (fresh : ((drafts host plan start paths).map Draft.path).any (Path.same module.path) = false) :
    (∃ middle changed, Wrote plan tree module middle ∧ Registered plan middle module changed) ↔
      Alone host plan start path module := by
  have same := settled.sameDirectories
  have output := proper.clear_module drafted
  have kept (place : Location) (leads : start.Leads module.path place) :
      tree.entryAt? place = start.entryAt? place := by
    obtain ⟨apart, others⟩ := output place (FileTree.locate?_eq_some_iff.mpr leads)
    exact settled.entryAt? place apart others
  have registers {middle : FileTree} (wrote : Wrote plan tree module middle) :=
    (settled.write output wrote).exists_registered_iff proper.lines proper.initial.unbroken_names
      (not_mem_names drafted fresh)
  constructor
  · rintro ⟨middle, changed, wrote, registered⟩
    refine ⟨drafted, ?_, (registers wrote).mp ⟨changed, registered⟩⟩
    exact exists_wrote_congr same.symm (fun place leads => (kept place (same.symm.leads leads)).symm) wrote
  · rintro ⟨_, ⟨_, wrote⟩, registered⟩
    obtain ⟨middle, wrote⟩ := exists_wrote_congr same kept wrote
    obtain ⟨changed, registered⟩ := (registers wrote).mpr registered
    exact ⟨middle, changed, wrote, registered⟩

theorem Settled.next (drafted : draft host plan start [] path = .ok module) (wrote : Wrote plan tree module middle)
    (registered : Registered plan middle module changed) :
    Settled plan start (drafts host plan start (paths ++ [path]))
      ((drafts host plan start (paths ++ [path])).map Draft.name) changed := by
  have all := drafts_concat paths drafted
  have written := settled.write (proper.clear_module drafted) wrote
  rw [all, List.map_append]
  refine written.register proper.lines proper.initial.unbroken_names ?_ registered
  rw [← all]
  intro other member place located
  exact proper.registerPlace?_ne (List.mem_append_right _ (List.mem_map_of_mem member)) located

end Step

def Different (modules : List Draft) : Prop :=
  modules.Pairwise fun first second => Path.same second.path first.path = false

theorem different_append :
    Different (modules ++ [module]) ↔
      Different modules ∧ (modules.map Draft.path).any (Path.same module.path) = false := by
  simp [Different, List.pairwise_append, List.any_eq_false]

theorem same_comm (left right : Path) : Path.same left right = Path.same right left := by
  rw [Bool.eq_iff_iff]
  simp only [Path.same, Bool.and_eq_true, beq_iff_eq]
  exact and_congr eq_comm eq_comm

theorem Different.perm {others : List Draft} (different : Different modules) (perm : others.Perm modules) :
    Different others := by
  refine (perm.pairwise_iff ?_).mpr different
  intro first second same
  rw [← same, same_comm]

section Run

structure Completed (host : Host) (plan : GenerationPlan) (start : FileTree) (paths : List Path)
    (tree : FileTree) : Prop where
  proper : Proper host plan start paths
  settled : Settled plan start (drafts host plan start paths) ((drafts host plan start paths).map Draft.name) tree
  alone : ∀ path ∈ paths, ∃ module, Alone host plan start path module
  different : Different (drafts host plan start paths)

theorem completed_of_handled (proper : Proper host plan start paths)
    (handled : Handled host plan start paths modules tree) :
    modules = drafts host plan start paths ∧ Completed host plan start paths tree := by
  -- What the next ontology meets is settled by the modules before it, and it is none of their files.
  induction handled with
  | nothing => exact ⟨rfl, proper, settled_nothing plan start, by simp, .nil⟩
  | @next paths modules tree changed path module before generates ih =>
      obtain ⟨rfl, earlier⟩ := ih proper.initial
      obtain ⟨middle, wrote, registered⟩ := generates.wrote
      obtain ⟨read, fresh⟩ := draft_eq_ok_iff.mp generates.drafted
      have drafted := (earlier.settled.toKept.draft_eq_ok_iff proper.clear_next).mp read
      have all := drafts_concat paths drafted
      have last := (earlier.settled.handles_iff proper drafted fresh).mp ⟨middle, changed, wrote, registered⟩
      refine ⟨all.symm, proper, earlier.settled.next proper drafted wrote registered, ?_, ?_⟩
      · intro other member
        rcases List.mem_append.mp member with before | latest
        · exact earlier.alone other before
        · cases List.mem_singleton.mp latest
          exact ⟨module, last⟩
      · rw [all]
        exact different_append.mpr ⟨earlier.different, fresh⟩

theorem handled_of_alone (serving : host.writes.ServesAll) (proper : Proper host plan start paths)
    (alone : ∀ path ∈ paths, ∃ module, Alone host plan start path module)
    (different : Different (drafts host plan start paths)) :
    ∃ tree, Handled host plan start paths (drafts host plan start paths) tree := by
  induction paths using List.reverseRecOn with
  | nil => exact ⟨start, .nothing⟩
  | append_singleton paths path ih =>
      obtain ⟨module, last⟩ := alone path (List.mem_append_right _ (List.mem_singleton_self path))
      have all := drafts_concat paths last.drafted
      rw [all, different_append] at different
      have earlier := fun path member => alone path (List.mem_append_left _ member)
      obtain ⟨tree, handled⟩ := ih proper.initial earlier different.1
      have settled := (completed_of_handled proper.initial handled).2.settled
      have read := (settled.toKept.draft_eq_ok_iff proper.clear_next).mpr last.drafted
      have drafted := draft_eq_ok_iff.mpr ⟨read, different.2⟩
      obtain ⟨middle, changed, wrote, registered⟩ :=
        (settled.handles_iff proper last.drafted different.2).mpr last
      rw [all]
      exact ⟨changed, .next handled (generates_of_wrote serving drafted wrote registered)⟩

end Run

section Uniqueness

variable {changed : FileTree} {others : List Draft} {names otherNames : List Text}

theorem Settled.sameEntries (settled : Settled plan start modules names tree)
    (same : FileTree.SameDirectories start changed)
    (written : ∀ module ∈ modules, ∀ place, start.locate? module.path = some place →
      changed.entryAt? place = moduleEntry plan start module place)
    (listed : ∀ path place, plan.registerIn = some path → start.locate? path = some place →
      changed.entryAt? place = TermModule.listEntry start path place names)
    (untouched : ∀ place, registerPlace? plan start ≠ some place →
      (∀ module ∈ modules, start.locate? module.path ≠ some place) → changed.entryAt? place = start.entryAt? place) :
    FileTree.SameEntries tree changed := by
  refine ⟨same.workingDirectory.trans settled.sameDirectories.workingDirectory.symm, ?_⟩
  intro place
  by_cases list : registerPlace? plan start = some place
  · obtain ⟨path, registerIn, located⟩ := Option.bind_eq_some_iff.mp list
    rw [listed path place registerIn located, (settled.listing path place registerIn located).entry]
  · by_cases output : ∃ module ∈ modules, start.locate? module.path = some place
    · obtain ⟨module, member, located⟩ := output
      rw [written module member place located, settled.written module member place located]
    · have apart : ∀ module ∈ modules, start.locate? module.path ≠ some place :=
        fun module member located => output ⟨module, member, located⟩
      rw [untouched place list apart, settled.entryAt? place list apart]

theorem Settled.sameEntries_of_perm (settled : Settled plan start modules names tree)
    (second : Settled plan start others otherNames changed) (sameModules : others.Perm modules)
    (sameNames : otherNames.Perm names) : FileTree.SameEntries tree changed := by
  refine settled.sameEntries second.sameDirectories ?_ ?_ ?_
  · exact fun module member => second.written module (sameModules.mem_iff.mpr member)
  · intro path place registerIn located
    rw [(second.listing path place registerIn located).entry, TermModule.listEntry_perm sameNames]
  · intro place list apart
    exact second.entryAt? place list fun module member => apart module (sameModules.mem_iff.mp member)

end Uniqueness

section Hosts

variable {first later : Host}

/-- The labels of an ontology come in one order, or no identifier in it fits two of them. -/
def SameLabels (first later : Host) (tree : FileTree) (path : Path) : Prop :=
  later.labelOrder path = first.labelOrder path ∨ ∀ document, tree.readFile path = .ok document →
    ∀ statement ∈ ((Rdf.Format.ofPath path).read document).statements, Ontology.LabelledOnce statement

theorem outlineOf_of_labelledOnce {document : List UInt8}
    (once : ∀ statement ∈ ((Rdf.Format.ofPath path).read document).statements, Ontology.LabelledOnce statement) :
    (readContent later path document >>= outlineOf plan) = (readContent first path document >>= outlineOf plan) := by
  have graph (host : Host) : Ontology.Graph.ofStatements (host.read path document).statements =
      Ontology.Graph.ofStatements ((Rdf.Format.ofPath path).read document).statements :=
    Ontology.graph_arranged once (host.labelOrder path)
  have ending (host : Host) : (host.read path document).ending =
      ((Rdf.Format.ofPath path).read document).ending.map fun scope => scope.arranged (host.labelOrder path)
        ((Rdf.Format.ofPath path).read document).statements.length := rfl
  cases whole : ((Rdf.Format.ofPath path).read document).ending with
  | none => simp [readContent, Ontology.Content.ofReading?, ending, whole]
  | some scope =>
      simp [readContent, Ontology.Content.ofReading?, ending, whole, bind, Except.bind, outlineOf, graph]

theorem SameLabels.draft_eq (same : SameLabels first later tree path) :
    draft later plan tree [] path = draft first plan tree [] path := by
  rcases same with order | once
  · simp only [draft, readContent, Host.read, order]
  · unfold draft
    cases read : tree.readFile path with
    | error error => rfl
    | ok document =>
        -- The labels at the end of the document do depend on their order, but only the outline goes on from here.
        change (readContent later path document >>= _) = (readContent first path document >>= _)
        rw [← bind_assoc, outlineOf_of_labelledOnce (once document read), bind_assoc]

theorem drafts_congr (agree : ∀ path ∈ paths, draft later plan start [] path = draft first plan start [] path) :
    drafts later plan start paths = drafts first plan start paths := by
  apply List.filterMap_congr
  intro path member
  rw [agree path member]

theorem Completed.congr (completed : Completed first plan start paths tree)
    (agree : ∀ path ∈ paths, draft later plan start [] path = draft first plan start [] path) :
    Completed later plan start paths tree := by
  obtain ⟨⟨apart, unbroken, lines⟩, settled, alone, different⟩ := completed
  have same := drafts_congr agree
  refine ⟨⟨?_, ?_, lines⟩, ?_, ?_, ?_⟩
  · rw [files, same]
    exact apart
  · rw [same]
    exact unbroken
  · rw [same]
    exact settled
  · intro path member
    obtain ⟨module, handled⟩ := alone path member
    exact ⟨module, { handled with drafted := (agree path member).trans handled.drafted }⟩
  · rw [same]
    exact different

end Hosts

theorem Completed.handled_of_perm (completed : Completed host plan start paths tree)
    (serving : host.writes.ServesAll) (perm : more.Perm paths) :
    ∃ others changed, Handled host plan start more others changed ∧ FileTree.SameEntries tree changed := by
  have drafted : (drafts host plan start more).Perm (drafts host plan start paths) := perm.filterMap _
  have also := completed.proper.perm perm
  have alone := fun path member => completed.alone path (perm.mem_iff.mp member)
  obtain ⟨changed, again⟩ := handled_of_alone serving also alone (completed.different.perm drafted)
  have second := (completed_of_handled also again).2.settled
  exact ⟨_, changed, again, completed.settled.sameEntries_of_perm second drafted (drafted.map Draft.name)⟩

end Generation

end Termbase
