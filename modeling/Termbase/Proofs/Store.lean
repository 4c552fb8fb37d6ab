import Termbase.Proofs.Dictionary.Json
import Termbase.Proofs.FileTree.Replacement
import Termbase.Store

/-! A store gives back the dictionary that it was given, and a save that fails leaves it as it was. -/

namespace Termbase.Store

open FileTree (find_put_of_writable)

theorem loadFile_of_find {tree : FileTree} {path : Path} {location : Location} {text : Text}
    (found : tree.find path = .ok (location, .file (Utf8.encode text))) :
    loadFile tree path = Dictionary.ofJson text := by
  have readable : tree.readText path = .ok text := by
    simp [FileTree.readText, FileTree.readFile, found, bind, Except.bind]
  simp [loadFile, FileTree.lookForFile, found, readable]

theorem load_of_saveBy {service : FileTree.WriteService} {store next : Store} {dictionary loaded : Dictionary}
    (saved : store.saveBy service dictionary = (.ok (), next)) (read : next.load = .ok loaded) :
    loaded.Same dictionary := by
  cases store with
  | memory former saves =>
      cases saved
      cases read
      exact Dictionary.Same.refl dictionary
  | file tree path =>
      simp only [saveBy] at saved
      split at saved
      next changed written =>
        cases saved
        obtain ⟨location, found⟩ := FileTree.find_of_writeAtomicallyBy written
        rw [load, loadFile_of_find found] at read
        exact Dictionary.same_of_ofJson_toJson read
      next => simp at saved

section Save

variable {service : FileTree.WriteService} {store next : Store} {dictionary loaded : Dictionary}
variable {tree : FileTree} {path : Path}

theorem eq_of_saveBy_error {error : CoderError} (failed : store.saveBy service dictionary = (.error error, next)) :
    next = store := by
  cases store with
  | memory former saves => simp [saveBy] at failed
  | file tree path =>
      simp only [saveBy] at failed
      split at failed
      next => simp at failed
      next changed written =>
        simp only [Prod.mk.injEq] at failed
        rw [← failed.2, FileTree.eq_of_writeAtomicallyBy_error written]

theorem saveBy_file_eq_ok_iff :
    (file tree path).saveBy service dictionary = (.ok (), next) ↔
      service.Serves tree path (Utf8.encode dictionary.toJson) ∧ ∃ place, tree.Writable path place ∧
        next = file (tree.put place (.file (Utf8.encode dictionary.toJson))) path := by
  simp only [saveBy]
  constructor
  · intro saved
    split at saved
    next changed written =>
      obtain ⟨served, place, writable, rfl⟩ := FileTree.writeAtomicallyBy_eq_ok_iff.mp written
      simp only [Prod.mk.injEq, true_and] at saved
      exact ⟨served, place, writable, saved.symm⟩
    next => simp at saved
  · rintro ⟨served, place, writable, rfl⟩
    rw [writable.writeAtomicallyBy served]

theorem save_of_saveBy (saved : store.saveBy service dictionary = (.ok (), next)) :
    store.save dictionary = (.ok (), next) := by
  cases store with
  | memory former saves => exact saved
  | file tree path =>
      obtain ⟨_, placed⟩ := saveBy_file_eq_ok_iff.mp saved
      exact saveBy_file_eq_ok_iff.mpr ⟨FileTree.WriteService.servesAll_smooth _ _ _, placed⟩

/-- Whether an identifier can be loaded from the store; a file refuses those that are not valid. -/
def Accepts : Store → Iri → Prop
  | memory _ _, _ => True
  | file _ _, iri => Iri.checkAbsolute iri = .ok ()

theorem accepts_of_saveBy {outcome : Except CoderError Unit} (saved : store.saveBy service dictionary = (outcome, next))
    {iri : Iri} (accepted : store.Accepts iri) : next.Accepts iri := by
  cases store with
  | memory former saves =>
      cases saved
      trivial
  | file tree path =>
      simp only [saveBy] at saved
      split at saved
      next =>
        cases saved
        exact accepted
      next =>
        cases saved
        exact accepted

theorem accepts_of_load (read : store.load = .ok loaded) :
    ∀ entry ∈ loaded.entries, store.Accepts entry.1 := by
  cases store with
  | memory former saves =>
      intro entry member
      trivial
  | file tree path =>
      simp only [load, loadFile] at read
      split at read
      next => cases read
      next =>
        cases read
        simp [Dictionary.empty]
      next =>
        split at read
        next => cases read
        next => exact Dictionary.valid_of_ofJson read

theorem exists_load_of_saveBy (accepted : ∀ entry ∈ dictionary.entries, store.Accepts entry.1)
    (saved : store.saveBy service dictionary = (.ok (), next)) :
    ∃ loaded, next.load = .ok loaded ∧ loaded.Same dictionary := by
  cases store with
  | memory former saves =>
      cases saved
      exact ⟨dictionary, rfl, Dictionary.Same.refl dictionary⟩
  | file tree path =>
      obtain ⟨_, place, writable, rfl⟩ := saveBy_file_eq_ok_iff.mp saved
      obtain ⟨loaded, inserted, same⟩ := Dictionary.exists_ofJson_toJson accepted
      refine ⟨loaded, ?_, same⟩
      rw [load, loadFile_of_find (find_put_of_writable writable _)]
      exact inserted

theorem load_saveBy_of_load (read : store.load = .ok loaded) :
    ∃ again, (store.saveBy service loaded).2.load = .ok again ∧ again.Same loaded := by
  rcases saved : store.saveBy service loaded with ⟨_ | ⟨⟩, next⟩
  · rw [eq_of_saveBy_error saved]
    exact ⟨loaded, read, Dictionary.Same.refl loaded⟩
  · exact exists_load_of_saveBy (accepts_of_load read) saved

end Save

/-- A dictionary file loses nothing, however the system serves its writes. A save succeeds exactly when the path can
be written and no step is refused; then the file holds the written form, whose members are sorted and depend on the
pairs only, and a dictionary of valid identifiers is loaded again. A save that fails leaves the tree as it was. -/
theorem saved_file_loses_nothing (service : FileTree.WriteService) (tree : FileTree) (path : Path) :
    (∀ dictionary next, (∀ entry ∈ dictionary.entries, Iri.checkAbsolute entry.1 = .ok ()) →
      (file tree path).saveBy service dictionary = (.ok (), next) →
      ∃ loaded, next.load = .ok loaded ∧ loaded.Same dictionary) ∧
    (∀ dictionary next, (file tree path).saveBy service dictionary = (.ok (), next) →
      ∃ changed, next = file changed path ∧
        changed.readFile path = .ok (Utf8.encode dictionary.toJson)) ∧
    (∀ dictionary, (∃ next, (file tree path).saveBy service dictionary = (.ok (), next)) ↔
      service.Serves tree path (Utf8.encode dictionary.toJson) ∧ ∃ place, tree.Writable path place) ∧
    (∀ left right : Dictionary, left.Same right → left.toJson = right.toJson) ∧
    (∀ dictionary : Dictionary, ∃ members : List (Iri × Code), members.Perm dictionary.entries ∧
      (members.map (·.1)).Pairwise (fun left right => Text.le left right = true ∧ left ≠ right) ∧
      dictionary.toJson = Json.writeIndentedObject (members.map fun member => (member.1, member.2.toJson))) ∧
    (∀ dictionary error next, (file tree path).saveBy service dictionary = (.error error, next) →
      next = file tree path) ∧
    (∀ loaded, (file tree path).load = .ok loaded →
      ∃ again, ((file tree path).saveBy service loaded).2.load = .ok again ∧ again.Same loaded) := by
  refine ⟨?_, ?_, ?_, ?_, ?_, ?_, ?_⟩
  · intro dictionary next valid saved
    have accepted : ∀ entry ∈ dictionary.entries, (file tree path).Accepts entry.1 := valid
    exact exists_load_of_saveBy accepted saved
  · intro dictionary next saved
    obtain ⟨_, place, writable, rfl⟩ := saveBy_file_eq_ok_iff.mp saved
    refine ⟨_, rfl, ?_⟩
    simp only [FileTree.readFile, find_put_of_writable writable, bind, Except.bind]
  · intro dictionary
    constructor
    · rintro ⟨next, saved⟩
      obtain ⟨served, place, writable, _⟩ := saveBy_file_eq_ok_iff.mp saved
      exact ⟨served, place, writable⟩
    · rintro ⟨served, place, writable⟩
      exact ⟨_, saveBy_file_eq_ok_iff.mpr ⟨served, place, writable, rfl⟩⟩
  · intro left right same
    exact Dictionary.toJson_congr same
  · intro dictionary
    exact ⟨dictionary.sorted, dictionary.sorted_perm, dictionary.sorted_keys, rfl⟩
  · intro dictionary error next failed
    exact eq_of_saveBy_error failed
  · intro loaded read
    exact load_saveBy_of_load read

def unsortedTerms : Dictionary :=
  ⟨[(['u', ':', 'é'], ⟨1, [0, 0, 7]⟩), (['u', ':', 'a'], ⟨1, [0, 0, 2]⟩)], by decide, by decide⟩

/-- The terms are saved and loaded; then the disk is full, and they are still there. -/
theorem unsorted_terms_are_loaded :
    ∃ next loaded, (file ⟨[], []⟩ ['d']).save unsortedTerms = (.ok (), next) ∧
      next.load = .ok loaded ∧ loaded.code? ['u', ':', 'é'] = some ⟨1, [0, 0, 7]⟩ ∧
      next.saveBy (.refusing .fill .busy) .empty = (.error (.file .busy), next) := by
  have valid : ∀ entry ∈ unsortedTerms.entries, Iri.checkAbsolute entry.1 = .ok () := by
    intro entry member
    simp only [unsortedTerms, List.mem_cons, List.not_mem_nil, or_false] at member
    rcases member with rfl | rfl
    · rfl
    · rfl
  obtain ⟨changed, saved, refused⟩ : ∃ changed,
      (file ⟨[], []⟩ ['d']).save unsortedTerms = (.ok (), file changed ['d']) ∧
      ((file changed ['d']).saveBy (.refusing .fill .busy) .empty).1 = .error (.file .busy) := ⟨_, rfl, rfl⟩
  obtain ⟨loaded, read, same⟩ :=
    (saved_file_loses_nothing .smooth ⟨[], []⟩ ['d']).1 unsortedTerms _ valid saved
  obtain ⟨_, _, _, _, _, kept, _⟩ := saved_file_loses_nothing (.refusing .fill .busy) changed ['d']
  refine ⟨_, loaded, saved, read, ?_, Prod.ext refused (kept .empty _ _ (Prod.ext refused rfl))⟩
  rw [same.code?]
  rfl

end Termbase.Store
