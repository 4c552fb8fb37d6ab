import Termbase.Dictionary
import Termbase.Proofs.Search

/-! Look-ups in a dictionary, seen through the pairs that it holds. -/

namespace Termbase.Dictionary

theorem ext_entries {left right : Dictionary} (same : left.entries = right.entries) : left = right := by
  cases left
  cases right
  simpa using same

theorem code?_eq_some_iff {dictionary : Dictionary} {iri : Iri} {code : Code} :
    dictionary.code? iri = some code ↔ (iri, code) ∈ dictionary.entries := by
  simp only [code?, Option.map_eq_some_iff, find?_eq_some_iff_of_nodup dictionary.nodup_iris]
  constructor
  · rintro ⟨entry, ⟨member, rfl⟩, rfl⟩
    exact member
  · intro member
    exact ⟨(iri, code), ⟨member, rfl⟩, rfl⟩

theorem iri?_eq_some_iff {dictionary : Dictionary} {iri : Iri} {code : Code} :
    dictionary.iri? code = some iri ↔ (iri, code) ∈ dictionary.entries := by
  simp only [iri?, Option.map_eq_some_iff, find?_eq_some_iff_of_nodup dictionary.nodup_codes]
  constructor
  · rintro ⟨entry, ⟨member, rfl⟩, rfl⟩
    exact member
  · intro member
    exact ⟨(iri, code), ⟨member, rfl⟩, rfl⟩

theorem iri?_eq_some_iff_code? {dictionary : Dictionary} {iri : Iri} {code : Code} :
    dictionary.iri? code = some iri ↔ dictionary.code? iri = some code := by
  rw [iri?_eq_some_iff, code?_eq_some_iff]

theorem contains_iff {dictionary : Dictionary} {iri : Iri} :
    dictionary.contains iri = true ↔ iri ∈ dictionary.entries.map (·.1) := by
  simp [contains]

theorem contains_iff_code? {dictionary : Dictionary} {iri : Iri} :
    dictionary.contains iri = true ↔ ∃ code, dictionary.code? iri = some code := by
  simp [contains_iff, code?_eq_some_iff]

theorem isSome_code? (dictionary : Dictionary) (iri : Iri) :
    (dictionary.code? iri).isSome = dictionary.contains iri := by
  rw [Bool.eq_iff_iff, Option.isSome_iff_exists, contains_iff_code?]

theorem insert_new {dictionary : Dictionary} {iri : Iri} {code : Code}
    (absent : iri ∉ dictionary.entries.map (·.1)) (free : code ∉ dictionary.entries.map (·.2)) :
    ∃ extended, dictionary.insert iri code = .ok extended ∧
      extended.entries = dictionary.entries ++ [(iri, code)] := by
  have unused : dictionary.iri? code = none := by
    rw [iri?_eq_none_iff]
    intro entry member same
    exact free (same ▸ List.mem_map_of_mem member)
  have kept : dictionary.entries.filter (·.1 != iri) = dictionary.entries := by
    rw [List.filter_eq_self]
    intro entry member
    have differs : entry.1 ≠ iri := fun same => absent (same ▸ List.mem_map_of_mem member)
    simpa using differs
  refine ⟨dictionary.assign iri code unused, ?_, ?_⟩
  · unfold insert
    split
    next => rfl
    next existing found => rw [unused] at found; cases found
  · simp only [assign, kept]

/-- Two dictionaries are the same when they hold the same pairs; the order in which they list them does not
count. -/
def Same (left right : Dictionary) : Prop := left.entries.Perm right.entries

namespace Same

theorem refl (dictionary : Dictionary) : dictionary.Same dictionary := List.Perm.refl _

theorem symm {left right : Dictionary} (same : left.Same right) : right.Same left := List.Perm.symm same

theorem trans {left middle right : Dictionary} (first : left.Same middle) (second : middle.Same right) :
    left.Same right :=
  List.Perm.trans first second

variable {left right : Dictionary}

theorem code? (same : left.Same right) (iri : Iri) : left.code? iri = right.code? iri := by
  ext code
  rw [code?_eq_some_iff, code?_eq_some_iff, List.Perm.mem_iff same]

theorem contains (same : left.Same right) (iri : Iri) : left.contains iri = right.contains iri := by
  rw [← isSome_code?, ← isSome_code?, same.code?]

theorem size (same : left.Same right) : left.size = right.size := List.Perm.length_eq same

end Same

end Termbase.Dictionary
