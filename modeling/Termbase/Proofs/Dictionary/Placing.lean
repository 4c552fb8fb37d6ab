import Termbase.Dictionary.Json
import Termbase.Proofs.Dictionary
import Termbase.Proofs.Steps
import Termbase.Proofs.Text.Order

/-! Pairs put into their places, of which each key keeps the last, and their insertion into a dictionary. -/

namespace Termbase.Dictionary

def placed (entries : List (Iri × Code)) : List (Iri × Code) :=
  entries.foldl (fun others entry => place entry.1 entry.2 others) []

theorem place_perm {key : Text} (code : Code) {entries : List (Text × Code)}
    (absent : key ∉ entries.map (·.1)) : (place key code entries).Perm ((key, code) :: entries) := by
  induction entries with
  | nil => exact List.Perm.refl _
  | cons entry rest ih =>
      simp only [List.map_cons, List.mem_cons, not_or] at absent
      simp only [place, if_neg (Ne.symm absent.1)]
      split
      next => exact List.Perm.refl _
      next => exact ((ih absent.2).cons entry).trans (List.Perm.swap (key, code) entry rest)

theorem foldl_place_perm {entries others : List (Iri × Code)}
    (unique : ((others ++ entries).map (·.1)).Nodup) :
    (entries.foldl (fun others entry => place entry.1 entry.2 others) others).Perm (others ++ entries) := by
  induction entries generalizing others with
  | nil => simp
  | cons entry entries ih =>
      have moved : (others ++ entry :: entries).Perm (entry :: others ++ entries) := List.perm_middle
      have uniqueMoved := (moved.map (·.1)).nodup_iff.mp unique
      have absent : entry.1 ∉ others.map (·.1) := by
        simp only [List.cons_append, List.map_cons, List.map_append, List.nodup_cons, List.mem_append,
          not_or] at uniqueMoved
        exact uniqueMoved.1.1
      have here := (place_perm entry.2 absent).append_right entries
      have uniqueNext := (here.map (·.1)).nodup_iff.mpr uniqueMoved
      exact (ih uniqueNext).trans (here.trans moved.symm)

def Before (left right : Text × Code) : Prop := Text.le left.1 right.1 = true ∧ left.1 ≠ right.1

theorem Before.trans {left middle right : Text × Code} (first : Before left middle)
    (second : Before middle right) : Before left right := by
  refine ⟨Text.le_trans first.1 second.1, ?_⟩
  intro same
  exact first.2 (Text.le_antisymm first.1 (same ▸ second.1))

theorem mem_of_mem_place {key : Text} {code : Code} {entries : List (Text × Code)} {entry : Text × Code}
    (member : entry ∈ place key code entries) : entry = (key, code) ∨ entry ∈ entries := by
  induction entries with
  | nil => simpa [place] using member
  | cons first rest ih =>
      unfold place at member
      split at member
      next =>
        rcases List.mem_cons.mp member with here | later
        · exact Or.inl here
        · exact Or.inr (List.mem_cons_of_mem first later)
      next =>
        split at member
        next => exact List.mem_cons.mp member
        next =>
          rcases List.mem_cons.mp member with here | later
          · exact Or.inr (here ▸ List.mem_cons_self)
          · exact (ih later).imp_right (List.mem_cons_of_mem first)

theorem place_pairwise {key : Text} (code : Code) {entries : List (Text × Code)}
    (sorted : entries.Pairwise Before) : (place key code entries).Pairwise Before := by
  induction entries with
  | nil => simp [place]
  | cons first rest ih =>
      rw [List.pairwise_cons] at sorted
      unfold place
      split
      next same =>
        rw [List.pairwise_cons]
        refine ⟨?_, sorted.2⟩
        intro entry member
        subst same
        exact sorted.1 entry member
      next differs =>
        split
        next smaller =>
          have before : Before (key, code) first := ⟨smaller, Ne.symm differs⟩
          rw [List.pairwise_cons, List.pairwise_cons]
          refine ⟨List.forall_mem_cons.mpr ⟨before, ?_⟩, sorted⟩
          intro entry member
          exact before.trans (sorted.1 entry member)
        next notSmaller =>
          rw [List.pairwise_cons]
          refine ⟨?_, ih sorted.2⟩
          intro entry member
          -- The new pair comes in behind the first one, which is smaller.
          rcases mem_of_mem_place member with rfl | old
          · have total := Text.le_total first.1 key
            simp only [notSmaller, Bool.or_false] at total
            exact ⟨total, differs⟩
          · exact sorted.1 entry old

theorem foldl_place_pairwise (entries : List (Iri × Code)) {others : List (Iri × Code)}
    (sorted : others.Pairwise Before) :
    (entries.foldl (fun others entry => place entry.1 entry.2 others) others).Pairwise Before := by
  induction entries generalizing others with
  | nil => exact sorted
  | cons entry entries ih => exact ih (place_pairwise entry.2 sorted)

theorem placed_pairwise (entries : List (Iri × Code)) : (placed entries).Pairwise Before :=
  foldl_place_pairwise entries List.Pairwise.nil

theorem nodup_keys_of_pairwise {entries : List (Text × Code)} (sorted : entries.Pairwise Before) :
    (entries.map (·.1)).Nodup :=
  List.pairwise_map.mpr (sorted.imp And.right)

theorem lookup_cons {α : Type} (wanted : Text) (entry : Text × α) (entries : List (Text × α)) :
    (entry :: entries).lookup wanted = if entry.1 = wanted then some entry.2 else entries.lookup wanted := by
  rw [List.lookup_cons]
  by_cases same : entry.1 = wanted
  · simp [same]
  · have differs : (wanted == entry.1) = false := by simpa using Ne.symm same
    simp only [differs, if_neg same]

theorem lookup_place (key wanted : Text) (code : Code) (entries : List (Text × Code)) :
    (place key code entries).lookup wanted = if key = wanted then some code else entries.lookup wanted := by
  induction entries with
  | nil => rw [place, lookup_cons]
  | cons first rest ih =>
      unfold place
      split
      next same =>
        rw [lookup_cons, lookup_cons, same]
        split <;> rfl
      next differs =>
        split
        next => rw [lookup_cons]
        next =>
          rw [lookup_cons, lookup_cons, ih]
          by_cases here : first.1 = wanted
          · rw [if_pos here, if_neg (fun same => differs (here.trans same.symm)), if_pos here]
          · rw [if_neg here, if_neg here]

theorem lookup_foldl_place (entries others : List (Iri × Code)) (wanted : Text) :
    (entries.foldl (fun others entry => place entry.1 entry.2 others) others).lookup wanted =
      (entries.reverse.lookup wanted).or (others.lookup wanted) := by
  induction entries generalizing others with
  | nil => rfl
  | cons entry entries ih =>
      rw [List.foldl_cons, ih, lookup_place, List.reverse_cons, List.lookup_append, Option.or_assoc, lookup_cons]
      split <;> rfl

theorem lookup_placed (entries : List (Iri × Code)) (wanted : Text) :
    (placed entries).lookup wanted = entries.reverse.lookup wanted := by
  rw [placed, lookup_foldl_place, List.lookup_nil, Option.or_none]

theorem lookup_eq_some_iff_of_nodup {entries : List (Text × Code)} (unique : (entries.map (·.1)).Nodup)
    {key : Text} {code : Code} : entries.lookup key = some code ↔ (key, code) ∈ entries := by
  induction entries with
  | nil => simp
  | cons first rest ih =>
      rw [List.map_cons, List.nodup_cons] at unique
      rw [lookup_cons, List.mem_cons]
      split
      next same =>
        constructor
        · intro found
          cases found
          exact Or.inl (by rw [← same])
        · rintro (rfl | later)
          · rfl
          · exact absurd (List.mem_map_of_mem later) (same ▸ unique.1)
      next differs =>
        rw [ih unique.2]
        constructor
        · exact Or.inr
        · rintro (rfl | later)
          · exact absurd rfl differs
          · exact later

theorem mem_placed_iff {entries : List (Iri × Code)} {iri : Iri} {code : Code} :
    (iri, code) ∈ placed entries ↔ entries.reverse.lookup iri = some code := by
  rw [← lookup_placed, lookup_eq_some_iff_of_nodup (nodup_keys_of_pairwise (placed_pairwise entries))]

theorem eq_of_perm_of_pairwise {left right : List (Text × Code)} (leftSorted : left.Pairwise Before)
    (rightSorted : right.Pairwise Before) (same : left.Perm right) : left = right := by
  apply List.Perm.eq_of_pairwise _ leftSorted rightSorted same
  intro first second _ _ forth back
  exact absurd (Text.le_antisymm forth.1 back.1) forth.2

theorem mem_keys_iff_lookup {entries : List (Text × Code)} {key : Text} :
    key ∈ entries.map (·.1) ↔ ∃ code, entries.lookup key = some code := by
  induction entries with
  | nil => simp
  | cons first rest ih =>
      rw [List.map_cons, List.mem_cons, ih, lookup_cons]
      by_cases same : first.1 = key
      · simp [same]
      · simp [same, Ne.symm same]

theorem mem_keys_placed_iff {entries : List (Iri × Code)} {iri : Iri} :
    iri ∈ (placed entries).map (·.1) ↔ iri ∈ entries.map (·.1) := by
  rw [mem_keys_iff_lookup, lookup_placed, ← mem_keys_iff_lookup, List.map_reverse, List.mem_reverse]

theorem placed_congr {left right : List (Iri × Code)} (unique : (left.map (·.1)).Nodup)
    (same : left.Perm right) : placed left = placed right := by
  have rightUnique := (same.map (·.1)).nodup_iff.mp unique
  have leftPlaced : (placed left).Perm left := foldl_place_perm (by simpa using unique)
  have rightPlaced : (placed right).Perm right := foldl_place_perm (by simpa using rightUnique)
  exact eq_of_perm_of_pairwise (placed_pairwise left) (placed_pairwise right)
    (leftPlaced.trans (same.trans rightPlaced.symm))

theorem entries_of_insert {dictionary extended : Dictionary} {iri : Iri} {code : Code}
    (absent : iri ∉ dictionary.entries.map (·.1)) (inserted : dictionary.insert iri code = .ok extended) :
    extended.entries = dictionary.entries ++ [(iri, code)] := by
  have free : code ∉ dictionary.entries.map (·.2) := by
    intro used
    obtain ⟨entry, member, rfl⟩ := List.mem_map.mp used
    have differs : entry.1 ≠ iri := fun same => absent (same ▸ List.mem_map_of_mem member)
    have found : dictionary.iri? entry.2 = some entry.1 := iri?_eq_some_iff.mpr member
    unfold insert at inserted
    split at inserted
    next unused => rw [unused] at found; cases found
    next existing taken =>
      rw [taken, Option.some.injEq] at found
      rw [if_neg (by rwa [found])] at inserted
      cases inserted
  obtain ⟨other, step, entries⟩ := insert_new absent free
  rw [step] at inserted
  cases inserted
  exact entries

theorem insertValid_eq_ok_iff {dictionary loaded : Dictionary} {entries : List (Iri × Code)}
    (uniqueIris : ((dictionary.entries ++ entries).map (·.1)).Nodup) :
    dictionary.insertValid entries = .ok loaded ↔
      (∀ entry ∈ entries, Iri.checkAbsolute entry.1 = .ok ()) ∧
        loaded.entries = dictionary.entries ++ entries := by
  induction entries generalizing dictionary with
  | nil =>
      simp only [insertValid, Except.ok.injEq, List.not_mem_nil, false_implies, implies_true, true_and,
        List.append_nil]
      constructor
      · rintro rfl
        rfl
      · intro same
        exact ext_entries same.symm
  | cons entry entries ih =>
      have absent : entry.1 ∉ dictionary.entries.map (·.1) := by
        intro present
        rw [List.map_append, List.nodup_append] at uniqueIris
        exact uniqueIris.2.2 _ present _ (by simp) rfl
      have shape (extended : Dictionary) (added : extended.entries = dictionary.entries ++ [entry]) :
          dictionary.entries ++ entry :: entries = extended.entries ++ entries := by
        simp [added]
      cases valid : Iri.checkAbsolute entry.1 with
      | error error => simp [insertValid, valid]
      | ok =>
          simp only [insertValid, valid, bind_eq_ok_iff, List.forall_mem_cons, true_and]
          constructor
          · rintro ⟨extended, inserted, rest⟩
            have same := shape extended (entries_of_insert absent inserted)
            rw [same] at uniqueIris ⊢
            exact (ih uniqueIris).mp rest
          · rintro ⟨validRest, result⟩
            have free : entry.2 ∉ dictionary.entries.map (·.2) := by
              intro used
              have unique := loaded.nodup_codes
              rw [result, List.map_append, List.nodup_append] at unique
              exact unique.2.2 _ used _ (by simp) rfl
            obtain ⟨extended, inserted, added⟩ := insert_new absent free
            have same := shape extended added
            rw [same] at uniqueIris result
            exact ⟨extended, inserted, (ih uniqueIris).mpr ⟨validRest, result⟩⟩

end Termbase.Dictionary
