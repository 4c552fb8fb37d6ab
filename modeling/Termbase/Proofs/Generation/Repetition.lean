import Termbase.Proofs.Generation.Order

/-! A run that has written all its modules has nothing left to do: run again, forced or not, it puts what is there
already. -/

namespace Termbase

def GenerationPlan.forced (plan : GenerationPlan) (force : Bool) : GenerationPlan := { plan with force := force }

namespace Generation

variable {host : Host} {plan : GenerationPlan} {start tree changed : FileTree} {paths : List Path} {path : Path}
variable {modules : List Draft} {module : Draft} {place : Location}

/-- A run writes the module: it is forced, or no file of that name is there. -/
def Writes (plan : GenerationPlan) (start : FileTree) (module : Draft) : Prop :=
  plan.force = true ∨ ∀ place content, start.locate? module.path = some place →
    start.entryAt? place ≠ some (.file content)

theorem Wrote.of_writes (wrote : Wrote plan start module changed) (writes : Writes plan start module) :
    ∃ place, start.Writable module.path place ∧
      moduleEntry plan start module place = some (.file (Utf8.encode module.source)) := by
  cases wrote with
  | kept unforced present =>
      obtain ⟨place, content, found⟩ := FileTree.lookForFile_eq_true_iff.mp present
      obtain ⟨_, _, _, there⟩ := FileTree.walk_of_find found
      rcases writes with forced | missing
      · rw [unforced] at forced
        cases forced
      · exact absurd there (missing place content (FileTree.locate?_eq_some_iff.mpr (FileTree.leads_of_find found)))
  | put missing writable =>
      refine ⟨_, writable, if_pos ?_⟩
      cases force : plan.force with
      | true => exact Or.inl rfl
      | false => exact Or.inr (entryAt?_of_lookForFile writable (missing force))

section Again

variable (proper : Proper host plan start paths)
  (settled : Settled plan start (drafts host plan start paths) ((drafts host plan start paths).map Draft.name) tree)
  (force : Bool)

section Written

include settled

theorem Settled.entryAt?_of_writes (member : module ∈ drafts host plan start paths)
    (wrote : ∃ changed, Wrote plan start module changed) (writes : Writes plan start module) :
    ∃ place, tree.Writable module.path place ∧ tree.entryAt? place = some (.file (Utf8.encode module.source)) := by
  obtain ⟨_, wrote⟩ := wrote
  obtain ⟨place, writable, entry⟩ := wrote.of_writes writes
  refine ⟨place, settled.sameDirectories.writable writable, ?_⟩
  rw [settled.written module member place writable.locate?, entry]

theorem Settled.wrote_again (member : module ∈ drafts host plan start paths)
    (wrote : ∃ changed, Wrote plan start module changed) (writes : Writes plan start module) :
    ∃ changed, Wrote (plan.forced force) tree module changed := by
  obtain ⟨place, writable, there⟩ := settled.entryAt?_of_writes member wrote writes
  cases force with
  | true => exact ⟨_, .put nofun writable⟩
  | false => exact ⟨_, .kept rfl (FileTree.lookForFile_eq_true_iff.mpr ⟨place, _, writable.find there⟩)⟩

end Written

include proper settled

theorem Proper.drafts_again : drafts host (plan.forced force) tree paths = drafts host plan start paths := by
  apply List.filterMap_congr
  intro path member
  have same : draft host (plan.forced force) tree [] path = draft host plan tree [] path := rfl
  rw [same]
  apply Option.ext
  intro module
  rw [toOption_eq_some_iff, toOption_eq_some_iff,
    settled.toKept.draft_eq_ok_iff (proper.clear_input member fun _ known => known)]

theorem Proper.hasLines_again : HasLines (plan.forced force) tree := by
  intro path text registerIn read
  by_cases empty : text = []
  · subst empty
    simp [Text.lines, Text.splitAtLineFeeds]
  · obtain ⟨place, leads⟩ := TermModule.leads_of_currentText read empty
    have located := FileTree.locate?_eq_some_iff.mpr (settled.sameDirectories.symm.leads leads)
    obtain ⟨before, current, rfl⟩ := (settled.listing path place registerIn located).text_of_currentText read
    have lines := proper.lines path before registerIn current
    rw [TermModule.lines_listed lines proper.unbroken_names]
    exact TermModule.isLine_foldl_declare lines proper.unbroken_names

theorem Proper.again : Proper host (plan.forced force) tree paths := by
  have drafted := proper.drafts_again settled force
  have same : files host (plan.forced force) tree paths = files host plan start paths := by
    rw [files, files, drafted]
    rfl
  refine ⟨?_, by rw [drafted]; exact proper.unbroken, proper.hasLines_again settled force⟩
  rw [same]
  refine proper.apart.imp ?_
  intro left right apart place
  rw [settled.sameDirectories.locate?, settled.sameDirectories.locate?]
  exact apart place

theorem Proper.registered_again (member : module ∈ drafts host plan start paths)
    (registered : ∃ changed, Registered plan start module changed) :
    ∃ changed, Registered (plan.forced force) tree module changed := by
  cases registerIn : plan.registerIn with
  | none => exact ⟨_, .unlisted registerIn⟩
  | some list =>
      simp only [registered_listed_iff registerIn] at registered
      obtain ⟨text, current, _⟩ := TermModule.exists_registered_iff.mp registered
      obtain ⟨place, leads⟩ := registered.elim fun _ registered => registered.leads
      have listing := settled.listing list place registerIn (FileTree.locate?_eq_some_iff.mpr leads)
      have read : TermModule.currentText tree list =
          .ok (TermModule.listed ((drafts host plan start paths).map Draft.name) text) := by
        rw [listing.current, current]
        rfl
      have declared := listing.declares (proper.lines list · registerIn) proper.unbroken_names read
        (List.mem_map_of_mem member)
      exact ⟨tree, .listed registerIn (.known read declared)⟩

theorem Proper.alone_again (listed : path ∈ paths) (alone : Alone host plan start path module)
    (writes : Writes plan start module) : Alone host (plan.forced force) tree path module := by
  have member : module ∈ drafts host plan start paths := mem_drafts.mpr ⟨path, listed, alone.drafted⟩
  have input := proper.clear_input listed fun _ known => known
  exact ⟨(settled.toKept.draft_eq_ok_iff input).mpr alone.drafted,
    settled.wrote_again force member alone.wrote writes,
    proper.registered_again settled force member alone.registered⟩

end Again

theorem Completed.handled_again (completed : Completed host plan start paths tree)
    (serving : host.writes.ServesAll) (writes : ∀ module ∈ drafts host plan start paths, Writes plan start module)
    (force : Bool) :
    ∃ others changed, Handled host (plan.forced force) tree paths others changed ∧
      FileTree.SameEntries tree changed := by
  obtain ⟨proper, settled, alone, different⟩ := completed
  have drafted := proper.drafts_again settled force
  have again := proper.again settled force
  have aloneAgain : ∀ path ∈ paths, ∃ module, Alone host (plan.forced force) tree path module := by
    intro path member
    obtain ⟨module, first⟩ := alone path member
    have writes := writes module (mem_drafts.mpr ⟨path, member, first.drafted⟩)
    exact ⟨module, proper.alone_again settled force member first writes⟩
  rw [← drafted] at different
  obtain ⟨changed, handledAgain⟩ := handled_of_alone serving again aloneAgain different
  have second := (completed_of_handled again handledAgain).2.settled
  refine ⟨_, changed, handledAgain, (second.sameEntries (.refl tree) ?_ ?_ fun _ _ _ => rfl).symm⟩
  · intro module member place located
    rw [drafted] at member
    obtain ⟨path, listed, found⟩ := mem_drafts.mp member
    obtain ⟨_, first⟩ := alone path listed
    rw [first.drafted] at found
    cases found
    obtain ⟨other, writable, there⟩ := settled.entryAt?_of_writes member first.wrote (writes module member)
    rw [writable.locate?] at located
    cases located
    rw [moduleEntry, there, ite_self]
  · intro list place registerIn located
    unfold TermModule.listEntry
    split
    next => rfl
    next text read =>
      rw [if_pos]
      rw [drafted, List.all_eq_true]
      intro name member
      rw [settled.sameDirectories.locate?] at located
      have listing := settled.listing list place registerIn located
      exact listing.declares (proper.lines list · registerIn) proper.unbroken_names read member

/-- The tree when the output directory is there. -/
def prepared (plan : GenerationPlan) (tree : FileTree) : FileTree := (tree.ensureDirectory plan.outputDirectory).2

theorem ensureDirectory_of_run (succeeded : (runOn host plan tree).outcome = .ok ()) :
    ∃ created, tree.ensureDirectory plan.outputDirectory = (.ok created, prepared plan tree) := by
  rcases ensured : tree.ensureDirectory plan.outputDirectory with ⟨error | created, start⟩
  · simp [runOn, ensured] at succeeded
  · exact ⟨created, by simp only [prepared, ensured]⟩

theorem handled_of_run (succeeded : (runOn host plan tree).outcome = .ok ()) :
    ∃ modules, Handled host plan (prepared plan tree) plan.ontologies modules (runOn host plan tree).tree := by
  obtain ⟨created, ensured⟩ := ensureDirectory_of_run succeeded
  have whole : runOn host plan tree = generateAll host plan (prepared plan tree) [] plan.ontologies :=
    runOn_eq_generateAll host plan ensured plan.ontologies
  rw [whole] at succeeded ⊢
  exact generateAll_eq_ok_iff.mp ⟨succeeded, rfl⟩

theorem hasLines_of_returns (returns : ∀ path text, plan.registerIn = some path →
    start.readText path = .ok text → Text.OnlyLineReturns text) : HasLines plan start := by
  intro path text registerIn read
  simp only [TermModule.currentText, bind_eq_ok_iff] at read
  obtain ⟨looked, _, read⟩ := read
  cases looked with
  | true => exact Text.isLine_of_mem_lines (returns path text registerIn read)
  | false =>
      cases read
      simp [Text.lines, Text.splitAtLineFeeds]

def reversing : Host := ⟨.smooth, fun _ => ⟨fun _ labels => labels.reverse, fun _ labels => labels.reverse_perm⟩⟩

def labelledOntology : List UInt8 :=
  Utf8.encode ("@prefix o: <http://www.w3.org/2002/07/owl#> .\n@prefix v: <http://purl.org/vocab/vann/> .\n".toList ++
    "<u:c> a o:Ontology ; v:preferredNamespaceUri \"u:c#\" ; v:preferredNamespacePrefix \"c\" .\n".toList)

def smallTree : FileTree :=
  ⟨[], [(["a.nt".toList], .file (smallOntology ['a'])), (["c.ttl".toList], .file labelledOntology),
    (["lib.rs".toList], .file (Utf8.encode "pub mod b;\r\n".toList))]⟩

def smallPlan : GenerationPlan :=
  ⟨["a.nt".toList, "c.ttl".toList], "out".toList, none, false, .source, false, some "lib.rs".toList⟩

/-- Under two labels for one namespace, a module tells what supersedes its term by whichever of them comes first. -/
def labelledTwice : FileTree :=
  let document := "@prefix o: <http://www.w3.org/2002/07/owl#> .\n@prefix p: <u:d#> .\n@prefix q: <u:d#> .\n".toList ++
    "<u:d> a o:Ontology ; <http://purl.org/vocab/vann/preferredNamespaceUri> \"u:d#\" ; ".toList ++
    "<http://purl.org/vocab/vann/preferredNamespacePrefix> \"d\" .\n".toList ++
    "p:a a o:Class ; o:deprecated true ; <http://schema.org/supersededBy> p:b .\n".toList
  ⟨[], [(["d.ttl".toList], .file (Utf8.encode document))]⟩

example :
    let plan : GenerationPlan := ⟨["d.ttl".toList], "out".toList, none, false, .source, false, none⟩
    let turned : Rdf.LabelOrder := ⟨fun _ labels => labels.reverse, fun _ labels => labels.reverse_perm⟩
    draft .plain plan labelledTwice [] "d.ttl".toList ≠
      draft ⟨.smooth, fun _ => turned⟩ plan labelledTwice [] "d.ttl".toList := by
  decide +kernel

end Generation

end Termbase
