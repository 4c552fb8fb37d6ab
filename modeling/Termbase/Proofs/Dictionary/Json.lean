import Termbase.Proofs.Dictionary.Reading

/-! A dictionary that is read back from its JSON form holds the pairs that were written, and the form depends
on nothing but these pairs. -/

namespace Termbase.Dictionary

open Json

theorem sorted_perm (dictionary : Dictionary) : dictionary.sorted.Perm dictionary.entries :=
  List.mergeSort_perm _ _

theorem nodup_sorted_keys (dictionary : Dictionary) : (dictionary.sorted.map (·.1)).Nodup :=
  (dictionary.sorted_perm.map (·.1)).nodup_iff.mpr dictionary.nodup_iris

theorem sorted_pairwise (dictionary : Dictionary) : dictionary.sorted.Pairwise Before := by
  have ordered : dictionary.sorted.Pairwise fun left right => Text.le left.1 right.1 = true := by
    unfold sorted
    apply List.pairwise_mergeSort
    · intro left middle right
      exact Text.le_trans
    · intro left right
      exact Text.le_total left.1 right.1
  have distinct : dictionary.sorted.Pairwise fun left right => left.1 ≠ right.1 :=
    List.pairwise_map.mp dictionary.nodup_sorted_keys
  exact ordered.and distinct

theorem sorted_keys (dictionary : Dictionary) :
    (dictionary.sorted.map (·.1)).Pairwise fun left right => Text.le left right = true ∧ left ≠ right :=
  List.pairwise_map.mpr dictionary.sorted_pairwise

theorem sorted_congr {left right : Dictionary} (same : left.Same right) : left.sorted = right.sorted :=
  eq_of_perm_of_pairwise left.sorted_pairwise right.sorted_pairwise
    (left.sorted_perm.trans (List.Perm.trans same right.sorted_perm.symm))

theorem toJson_congr {left right : Dictionary} (same : left.Same right) : left.toJson = right.toJson := by
  rw [toJson, sorted_congr same, toJson]

theorem placed_sorted (dictionary : Dictionary) : placed dictionary.sorted = dictionary.sorted :=
  eq_of_perm_of_pairwise (placed_pairwise _) dictionary.sorted_pairwise
    (foldl_place_perm (by simpa using dictionary.nodup_sorted_keys))

def hexMember (entry : Iri × Code) : Text × Text := (entry.1, entry.2.hex)

theorem coded_hexMember (entry : Iri × Code) : coded (hexMember entry) = entry := by
  rw [coded, hexMember, ← (Code.ofHex_eq_ok_iff.mp entry.2.ofHex_hex).2]

theorem readText_toJson (dictionary : Dictionary) :
    readText readEntries dictionary.toJson = .ok dictionary.sorted := by
  refine readText_eq_ok_iff.mpr ⟨dictionary.sorted.map hexMember, ?_, ?_, ?_⟩
  · have written : dictionary.toJson = writeIndentedObject
        ((dictionary.sorted.map hexMember).map fun member => (member.1, writeString member.2)) := by
      rw [List.map_map]
      rfl
    rw [written]
    exact isObject_writeIndentedObject _
  · rw [List.forall_mem_map]
    intro entry _
    exact (Code.ofHex_eq_ok_iff.mp entry.2.ofHex_hex).1
  · have each : coded ∘ hexMember = id := funext coded_hexMember
    rw [List.map_map, each, List.map_id, placed_sorted]

theorem ofJson_toJson_eq_ok_iff {dictionary loaded : Dictionary} :
    ofJson dictionary.toJson = .ok loaded ↔
      (∀ entry ∈ dictionary.entries, Iri.checkAbsolute entry.1 = .ok ()) ∧
        loaded.entries = dictionary.sorted := by
  rw [ofJson_eq_ok_iff, readText_toJson, Except.ok.injEq, and_comm, eq_comm]
  apply and_congr_left
  intro same
  simp only [same, dictionary.sorted_perm.mem_iff]

theorem same_of_ofJson_toJson {dictionary loaded : Dictionary}
    (read : ofJson dictionary.toJson = .ok loaded) : loaded.Same dictionary := by
  unfold Same
  rw [(ofJson_toJson_eq_ok_iff.mp read).2]
  exact dictionary.sorted_perm

theorem exists_ofJson_toJson {dictionary : Dictionary}
    (valid : ∀ entry ∈ dictionary.entries, Iri.checkAbsolute entry.1 = .ok ()) :
    ∃ loaded, ofJson dictionary.toJson = .ok loaded ∧ loaded.Same dictionary := by
  have uniqueCodes := (dictionary.sorted_perm.map (·.2)).nodup_iff.mpr dictionary.nodup_codes
  refine ⟨⟨dictionary.sorted, dictionary.nodup_sorted_keys, uniqueCodes⟩, ?_, dictionary.sorted_perm⟩
  exact ofJson_toJson_eq_ok_iff.mpr ⟨valid, rfl⟩

end Termbase.Dictionary
