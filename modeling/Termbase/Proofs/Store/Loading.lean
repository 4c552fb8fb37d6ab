import Termbase.Proofs.Dictionary.Reading
import Termbase.Proofs.Store

/-! Which files are loaded as dictionaries, and as which ones. -/

namespace Termbase.Store

open Dictionary Json

theorem load_file_eq_ok_iff {tree : FileTree} {path : Path} {location : Location} {content : List UInt8}
    {dictionary : Dictionary} (found : tree.find path = .ok (location, .file content)) :
    (file tree path).load = .ok dictionary ↔
      ∃ text, content = Utf8.encode text ∧ ofJson text = .ok dictionary := by
  constructor
  · intro loaded
    have isFile : tree.lookForFile path = .ok true := by simp [FileTree.lookForFile, found]
    simp only [load, loadFile, isFile] at loaded
    split at loaded
    next => cases loaded
    next text read =>
      obtain ⟨octets, whole, decoded⟩ := bind_eq_ok_iff.mp read
      simp only [FileTree.readFile, found, bind, Except.bind, Except.ok.injEq] at whole
      subst whole
      split at decoded
      next text' valid =>
        cases decoded
        exact ⟨text, (Utf8.encode_of_decode valid).symm, loaded⟩
      next => cases decoded
  · rintro ⟨text, rfl, read⟩
    rw [load, loadFile_of_find found, read]

/-- A file is loaded exactly when its content is a dictionary, whatever else the tree holds. -/
theorem exactly_dictionaries_are_loaded (tree : FileTree) (path : Path) (location : Location)
    (content : List UInt8) (found : tree.find path = .ok (location, .file content)) :
    ((∃ dictionary, (file tree path).load = .ok dictionary) ↔ ∃ members, IsDictionary members content) ∧
    (∀ members dictionary, IsDictionary members content → (file tree path).load = .ok dictionary →
      ∀ iri code, dictionary.code? iri = some code ↔
        ∃ digits, lastDigits? members iri = some digits ∧ code.octets = Hex.octetsOf digits) ∧
    (∀ left right, Hex.IsForm left → Hex.IsForm right →
      (Hex.octetsOf left = Hex.octetsOf right ↔ left.map asciiLower = right.map asciiLower)) ∧
    (∀ pairs others text other otherTree otherPath otherLocation, IsObject pairs text →
      IsObject others other → (pairs.map (·.1)).Nodup → pairs.Perm others → content = Utf8.encode text →
      FileTree.find otherTree otherPath = .ok (otherLocation, .file (Utf8.encode other)) →
      ∀ dictionary, (file tree path).load = .ok dictionary ↔
        (file otherTree otherPath).load = .ok dictionary) := by
  refine ⟨?_, ?_, ?_, ?_⟩
  · constructor
    · rintro ⟨dictionary, loaded⟩
      obtain ⟨text, rfl, read⟩ := (load_file_eq_ok_iff found).mp loaded
      exact exists_ofJson_iff.mp ⟨dictionary, read⟩
    · rintro ⟨members, written⟩
      obtain ⟨text, rfl, object⟩ := written.object
      obtain ⟨dictionary, read⟩ := exists_ofJson_iff.mpr ⟨members, written⟩
      exact ⟨dictionary, (load_file_eq_ok_iff found).mpr ⟨text, rfl, read⟩⟩
  · intro members dictionary written loaded iri code
    obtain ⟨text, rfl, read⟩ := (load_file_eq_ok_iff found).mp loaded
    exact code?_of_ofJson written read iri code
  · intro left right leftForm rightForm
    exact Hex.octetsOf_eq_iff leftForm rightForm
  · rintro pairs others text other otherTree otherPath otherLocation object reordered unique same rfl
      otherFound dictionary
    have otherUnique := (same.map (·.1)).nodup_iff.mp unique
    rw [load_file_eq_ok_iff found, load_file_eq_ok_iff otherFound]
    constructor
    · rintro ⟨text', sameText, read⟩
      obtain rfl := Utf8.encode_injective sameText
      exact ⟨other, rfl, ofJson_of_perm object reordered unique same read⟩
    · rintro ⟨text', sameText, read⟩
      obtain rfl := Utf8.encode_injective sameText
      exact ⟨text, rfl, ofJson_of_perm reordered object otherUnique same.symm read⟩

/-- The first code of `u:A` is the one of `u:B`, but the last one counts. -/
def repeatedTerms : List (Text × Text) :=
  [("u:A".toList, "00Ff".toList), ("u:B".toList, "00fF".toList), ("u:A".toList, "01".toList)]

def repeatedTermsFile : List UInt8 :=
  Utf8.encode (writeIndentedObject (repeatedTerms.map fun member => (member.1, writeString member.2)))

theorem repeated_terms_are_loaded : ∃ dictionary : Dictionary,
    (file ⟨[], [([['d']], .file repeatedTermsFile)]⟩ ['d']).load = .ok dictionary ∧
      dictionary.code? "u:A".toList = some ⟨1, []⟩ ∧ dictionary.code? "u:B".toList = some ⟨0, [255]⟩ := by
  have written : IsDictionary repeatedTerms repeatedTermsFile := by
    refine ⟨⟨_, rfl, isObject_writeIndentedObject repeatedTerms⟩, ?_, ?_, ?_⟩
    · intro member inside
      simp only [repeatedTerms, List.mem_cons, List.not_mem_nil, or_false] at inside
      rcases inside with rfl | rfl | rfl
      · exact ⟨by decide, rfl, List.all_eq_true.mp rfl⟩
      · exact ⟨by decide, rfl, List.all_eq_true.mp rfl⟩
      · exact ⟨by decide, rfl, List.all_eq_true.mp rfl⟩
    · intro member inside
      simp only [repeatedTerms, List.mem_cons, List.not_mem_nil, or_false] at inside
      rcases inside with rfl | rfl | rfl
      · rfl
      · rfl
      · rfl
    · intro first second left right leftFound rightFound same
      have last {key digits : Text} (found : lastDigits? repeatedTerms key = some digits) :
          "u:A".toList = key ∧ "01".toList = digits ∨ "u:B".toList = key ∧ "00fF".toList = digits := by
        simp only [lastDigits?, repeatedTerms, List.reverse_cons, List.reverse_nil, List.nil_append,
          List.cons_append, lookup_cons, List.lookup_nil] at found
        split at found
        next key => exact Or.inl ⟨key, Option.some.inj found⟩
        next =>
          split at found
          next key => exact Or.inr ⟨key, Option.some.inj found⟩
          next => cases found
      rcases last leftFound with ⟨rfl, rfl⟩ | ⟨rfl, rfl⟩ <;>
        rcases last rightFound with ⟨rfl, rfl⟩ | ⟨rfl, rfl⟩
      · rfl
      · exact absurd same (by decide)
      · exact absurd same (by decide)
      · rfl
  have found : FileTree.find ⟨[], [([['d']], .file repeatedTermsFile)]⟩ ['d'] =
      .ok ([['d']], .file repeatedTermsFile) := rfl
  obtain ⟨accepted, codes, _⟩ := exactly_dictionaries_are_loaded _ _ _ _ found
  obtain ⟨dictionary, loaded⟩ := accepted.mpr ⟨repeatedTerms, written⟩
  have code := codes repeatedTerms dictionary written loaded
  refine ⟨dictionary, loaded, ?_, ?_⟩
  · exact (code _ _).mpr ⟨"01".toList, rfl, rfl⟩
  · exact (code _ _).mpr ⟨"00fF".toList, rfl, rfl⟩

end Termbase.Store
