import Mathlib.Data.List.Perm.Subperm
import Termbase.Proofs.Coder.Growth

/-! The exact codes of new terms. The counters go on from the greatest of what was loaded, one for each missing
term in the order of first occurrence, and they stay so small that 32 bits hold them and three octets show
them. -/

namespace Termbase.KnownCoder

section Octets

variable {id : CoderId} {counter : Nat}

def wordOctets (counter : UInt32) : List UInt8 :=
  [(counter >>> 24).toUInt8, (counter >>> 16).toUInt8, (counter >>> 8).toUInt8, counter.toUInt8]

def wordCode (id : CoderId) (counter : UInt32) : Code := .make id .iri ((wordOctets counter).drop 1)

theorem toUInt8_shifted (counter : Nat) :
    (UInt32.ofNat counter >>> 16).toUInt8 = UInt8.ofNat (counter / 65536) ∧
      (UInt32.ofNat counter >>> 8).toUInt8 = UInt8.ofNat (counter / 256) ∧
      (UInt32.ofNat counter).toUInt8 = UInt8.ofNat counter := by
  refine ⟨?_, ?_, ?_⟩
  · apply UInt8.toNat_inj.mp
    simp [Nat.shiftRight_eq_div_pow]
    omega
  · apply UInt8.toNat_inj.mp
    simp [Nat.shiftRight_eq_div_pow]
    omega
  · apply UInt8.toNat_inj.mp
    simp

theorem codeOf_eq_wordCode (id : CoderId) (counter : Nat) :
    codeOf id counter = wordCode id (UInt32.ofNat counter) := by
  obtain ⟨high, middle, low⟩ := toUInt8_shifted counter
  simp only [codeOf, wordCode, wordOctets, counterOctets, List.drop_succ_cons, List.drop_zero, high, middle, low]

theorem head?_wordOctets (bounded : counter ≤ capacity) :
    (wordOctets (UInt32.ofNat counter)).head? = some 0 := by
  simp only [capacity] at bounded
  simp only [wordOctets, List.head?_cons, Option.some.injEq]
  apply UInt8.toNat_inj.mp
  simp [Nat.shiftRight_eq_div_pow]
  omega

def IsOwn (id : CoderId) (code : Code) : Prop :=
  ∃ high middle low, code = ⟨id.header .iri, [high, middle, low]⟩

theorem mayOwn_iff_isOwn {code : Code} : mayOwn id code = true ↔ IsOwn id code := by
  obtain ⟨header, payload⟩ := code
  simp only [mayOwn, IsOwn, Bool.and_eq_true, beq_iff_eq, Code.mk.injEq]
  constructor
  · rintro ⟨isCounter, sameHeader⟩
    simp only [counter?] at isCounter
    split at isCounter
    next high middle low => exact ⟨high, middle, low, sameHeader, rfl⟩
    next => cases isCounter
  · rintro ⟨high, middle, low, sameHeader, rfl⟩
    exact ⟨rfl, sameHeader⟩

theorem owned_iff_isOwn {dictionary : Dictionary} :
    Owned id dictionary ↔ ∀ entry ∈ dictionary.entries, IsOwn id entry.2 := by
  simp only [Owned, mayOwn_iff_isOwn]

end Octets

section Last

variable {id : CoderId} {dictionary : Dictionary}

structure IsLast (dictionary : Dictionary) (last : Nat) : Prop where
  size : dictionary.size ≤ last
  counters : ∀ entry ∈ dictionary.entries, ∀ counter, counter? entry.2 = some counter → counter ≤ last
  reached : last = dictionary.size ∨ ∃ entry ∈ dictionary.entries, counter? entry.2 = some last

theorem IsLast.eq_firstFree {last : Nat} (isLast : IsLast dictionary last) : last = firstFree dictionary := by
  have bounds := firstFree_le_iff.mp (Nat.le_refl (firstFree dictionary))
  apply Nat.le_antisymm
  · rcases isLast.reached with size | ⟨entry, member, found⟩
    · rw [size]
      exact bounds.1
    · exact bounds.2 entry member last found
  · exact firstFree_le_iff.mpr ⟨isLast.size, isLast.counters⟩

theorem size_le_of_owned (owned : Owned id dictionary) : dictionary.size ≤ capacity + 1 := by
  have listed : dictionary.entries.map (·.2) ⊆ (List.range (capacity + 1)).map (codeOf id) := by
    intro code member
    obtain ⟨entry, inside, rfl⟩ := List.mem_map.mp member
    obtain ⟨counter, bounded, same⟩ := mayOwn_iff.mp (owned entry inside)
    exact List.mem_map.mpr ⟨counter, List.mem_range.mpr (Nat.lt_succ_of_le bounded), same.symm⟩
  have fewer := (List.subperm_of_subset dictionary.nodup_codes listed).length_le
  simp only [List.length_map, List.length_range] at fewer
  exact fewer

theorem firstFree_le_of_owned (owned : Owned id dictionary) : firstFree dictionary ≤ capacity + 1 := by
  apply firstFree_le_iff.mpr
  refine ⟨size_le_of_owned owned, ?_⟩
  intro entry _ counter found
  exact Nat.le_succ_of_le (counter?_bound found)

theorem counter_le_of_registerAll (owned : Owned id dictionary) {terms : List Iri} {progress : Progress}
    (registered : (Progress.mk dictionary (firstFree dictionary) 0).registerAll id terms = .ok progress) :
    progress.counter ≤ capacity + 1 := by
  have start := firstFree_le_of_owned owned
  by_cases fits : Fits (firstFree dictionary) (missing dictionary terms).length
  · obtain ⟨after, finished, made⟩ := registerAll_ok (counted_initial owned) fits
    rw [registered] at finished
    cases finished
    have counted : progress.counter = firstFree dictionary + (missing dictionary terms).length := made.counter
    simp only [Fits] at fits
    omega
  · rw [registerAll_full (counted_initial owned) fits] at registered
    cases registered

end Last

def assigned (id : CoderId) (last : Nat) (terms : List Iri) : List (Iri × Code) :=
  (terms.zipIdx 1).map fun item => (item.1, wordCode id (UInt32.ofNat (last + item.2)))

theorem numbered_eq_assigned (id : CoderId) (last : Nat) (terms : List Iri) :
    numbered id last terms = assigned id last terms := by
  induction terms generalizing last with
  | nil => rfl
  | cons term terms ih =>
      have later (place : Nat) : last + 1 + place = last + (place + 1) := by omega
      simp [numbered, ih, assigned, codeOf_eq_wordCode, List.zipIdx_succ, later, Function.comp_def]

structure Completed (id : CoderId) (loaded : Dictionary) (last : Nat) (new : List Iri) (coder : KnownCoder) :
    Prop where
  owner : coder.id = id
  count : coder.newlyRegistered = new.length
  entries : coder.dictionary.entries.Perm (loaded.entries ++ assigned id last new)
  words : ∀ place, 1 ≤ place → place ≤ new.length →
    (UInt32.ofNat (last + place)).toNat = last + place ∧
      (wordOctets (UInt32.ofNat (last + place))).head? = some 0
  distinct : ((loaded.entries ++ assigned id last new).map (·.2)).Nodup

section Start

variable {id : CoderId} {loaded : Dictionary} {vocabularies : List Vocabulary}

theorem completed_of_grown {coder : KnownCoder}
    (fits : Fits (firstFree loaded) (newTerms loaded vocabularies).length)
    (grown : Grown id loaded vocabularies coder) :
    Completed id loaded (firstFree loaded) (newTerms loaded vocabularies) coder := by
  have entries := grown.entries
  rw [numbered_eq_assigned] at entries
  refine ⟨grown.owner, grown.count, List.Perm.of_eq entries, ?_, ?_⟩
  · intro place positive inside
    have bounded : firstFree loaded + place ≤ capacity := by
      simp only [Fits] at fits
      omega
    refine ⟨?_, head?_wordOctets bounded⟩
    simp only [capacity] at bounded
    exact UInt32.toNat_ofNat_of_lt (by simp only [UInt32.size]; omega)
  · rw [← entries]
    exact coder.dictionary.nodup_codes

theorem Completed.congr {listed : Dictionary} (same : listed.Same loaded) {last : Nat} {new : List Iri}
    {coder : KnownCoder} (completed : Completed id listed last new coder) :
    Completed id loaded last new coder := by
  have extended := List.Perm.append_right (assigned id last new) same
  exact ⟨completed.owner, completed.count, completed.entries.trans extended, completed.words,
    (extended.map (·.2)).nodup_iff.mp completed.distinct⟩

theorem start_eq_foreign_of_not_owned (vocabularies : List Vocabulary) (foreign : ¬ Owned id loaded) :
    ∃ entry ∈ loaded.entries, ¬ IsOwn id entry.2 ∧
      start id loaded vocabularies = .error (.foreignEntry entry.1 entry.2 id) := by
  cases found : foreign? id loaded with
  | none => exact absurd (foreign?_eq_none_iff.mp found) foreign
  | some entry =>
      have refused := List.find?_some found
      refine ⟨entry, List.mem_of_find?_eq_some found, ?_, start_foreign found⟩
      rw [← mayOwn_iff_isOwn]
      simpa using refused

inductive Ending (id : CoderId) (loaded : Dictionary) (vocabularies : List Vocabulary) :
    Except CoderError KnownCoder → Prop
  | foreign {entry : Iri × Code} : entry ∈ loaded.entries → ¬ IsOwn id entry.2 →
      Ending id loaded vocabularies (.error (.foreignEntry entry.1 entry.2 id))
  | full : Owned id loaded → ¬ Fits (firstFree loaded) (newTerms loaded vocabularies).length →
      Ending id loaded vocabularies (.error (.dictionaryFull capacity))
  | completed {coder : KnownCoder} : Owned id loaded →
      Fits (firstFree loaded) (newTerms loaded vocabularies).length →
      Completed id loaded (firstFree loaded) (newTerms loaded vocabularies) coder →
      Ending id loaded vocabularies (.ok coder)

theorem ending_start (id : CoderId) (loaded : Dictionary) (vocabularies : List Vocabulary) :
    Ending id loaded vocabularies (start id loaded vocabularies) := by
  by_cases owned : Owned id loaded
  · by_cases fits : Fits (firstFree loaded) (newTerms loaded vocabularies).length
    · obtain ⟨coder, started, grown⟩ := start_ok vocabularies owned fits
      rw [started]
      exact .completed owned fits (completed_of_grown fits grown)
    · rw [start_full owned fits]
      exact .full owned fits
  · obtain ⟨entry, member, notOwn, failed⟩ := start_eq_foreign_of_not_owned vocabularies owned
    rw [failed]
    exact .foreign member notOwn

theorem Ending.congr {listed : Dictionary} {outcome : Except CoderError KnownCoder}
    (same : listed.Same loaded) (ending : Ending id listed vocabularies outcome) :
    Ending id loaded vocabularies outcome := by
  have free := firstFree_congr same
  have new := newTerms_congr same vocabularies
  cases ending with
  | foreign member notOwn => exact .foreign ((List.Perm.mem_iff same).mp member) notOwn
  | full owned crowded =>
      rw [free, new] at crowded
      exact .full (owned.congr same) crowded
  | completed owned fits completed =>
      rw [free, new] at fits completed
      exact .completed (owned.congr same) fits (completed.congr same)

end Start

/-- A start fails at an entry that is not of the coder's form, or else when there are not enough counters for
the new terms, or else it gives them the counters after the last one, in the order in which they first occur.
The order in which a dictionary lists its entries counts only for which foreign entry is named, and the counter
is never out of 32 bits. -/
theorem start_assigns_exactly (id : CoderId) (vocabularies : List Vocabulary) {loaded listed : Dictionary}
    (same : listed.Same loaded) {last : Nat} (isLast : IsLast loaded last) :
    ((∃ iri code, start id listed vocabularies = .error (.foreignEntry iri code id)) ↔
      ∃ entry ∈ loaded.entries, ¬ IsOwn id entry.2) ∧
    ((∀ entry ∈ loaded.entries, IsOwn id entry.2) →
      (start id listed vocabularies = .error (.dictionaryFull 0xffffff) ↔
        0 < (newTerms loaded vocabularies).length ∧
          0xffffff < last + (newTerms loaded vocabularies).length) ∧
      (¬ (0 < (newTerms loaded vocabularies).length ∧
          0xffffff < last + (newTerms loaded vocabularies).length) →
        ∃ coder, start id listed vocabularies = .ok coder ∧
          Completed id loaded last (newTerms loaded vocabularies) coder) ∧
      (∀ terms progress, (Progress.mk listed last 0).registerAll id terms = .ok progress →
        progress.counter ≤ 0x1000000)) ∧
    (∀ error, start id listed vocabularies = .error error →
      (∃ entry ∈ loaded.entries, ¬ IsOwn id entry.2 ∧ error = .foreignEntry entry.1 entry.2 id) ∨
        error = .dictionaryFull 0xffffff) := by
  have crowdedIff : ¬ Fits last (newTerms loaded vocabularies).length ↔
      0 < (newTerms loaded vocabularies).length ∧
        0xffffff < last + (newTerms loaded vocabularies).length := by
    simp only [Fits, capacity]
    omega
  have small (owned : Owned id listed) (terms : List Iri) (progress : Progress)
      (registered : (Progress.mk listed last 0).registerAll id terms = .ok progress) :
      progress.counter ≤ 0x1000000 := by
    rw [isLast.eq_firstFree, ← firstFree_congr same] at registered
    exact counter_le_of_registerAll owned registered
  have ending := (ending_start id listed vocabularies).congr same
  generalize start id listed vocabularies = outcome at ending ⊢
  rw [← crowdedIff, isLast.eq_firstFree]
  rw [isLast.eq_firstFree] at small
  cases ending with
  | foreign member notOwn =>
      refine ⟨?_, ?_, ?_⟩
      · exact ⟨fun _ => ⟨_, member, notOwn⟩, fun _ => ⟨_, _, rfl⟩⟩
      · intro own
        exact absurd (own _ member) notOwn
      · rintro error ⟨⟩
        exact Or.inl ⟨_, member, notOwn, rfl⟩
  | full owned crowded =>
      have own := owned_iff_isOwn.mp owned
      refine ⟨?_, ?_, ?_⟩
      · constructor
        · rintro ⟨iri, code, ⟨⟩⟩
        · rintro ⟨entry, member, notOwn⟩
          exact absurd (own entry member) notOwn
      · intro _
        exact ⟨⟨fun _ => crowded, fun _ => rfl⟩, fun fits => absurd crowded fits, small (owned.congr same.symm)⟩
      · rintro error ⟨⟩
        exact Or.inr rfl
  | completed owned fits completed =>
      have own := owned_iff_isOwn.mp owned
      refine ⟨?_, ?_, ?_⟩
      · constructor
        · rintro ⟨iri, code, ⟨⟩⟩
        · rintro ⟨entry, member, notOwn⟩
          exact absurd (own entry member) notOwn
      · intro _
        refine ⟨⟨?_, fun crowded => absurd fits crowded⟩, fun _ => ⟨_, rfl, completed⟩,
          small (owned.congr same.symm)⟩
        intro failed
        cases failed
      · rintro error ⟨⟩

def nearlyFull : Dictionary :=
  ⟨[(['o'], ⟨1, [255, 255, 253]⟩), (['p'], ⟨1, [0, 0, 0]⟩)], by decide, by decide⟩

def nearlyFullListed : Dictionary :=
  ⟨[(['p'], ⟨1, [0, 0, 0]⟩), (['o'], ⟨1, [255, 255, 253]⟩)], by decide, by decide⟩

theorem last_counters_are_given_out :
    (∃ coder, start .knownTerms nearlyFullListed firstTerms = .ok coder ∧ coder.newlyRegistered = 2 ∧
      coder.dictionary.code? ['b'] = some ⟨1, [255, 255, 255]⟩) ∧
    start .knownTerms nearlyFullListed (firstTerms ++ secondTerms) = .error (.dictionaryFull 0xffffff) := by
  have same : nearlyFullListed.Same nearlyFull := List.Perm.swap _ _ _
  have isLast : IsLast nearlyFull 16777213 := by
    refine ⟨by decide, ?_, Or.inr ⟨_, List.mem_cons_self, rfl⟩⟩
    intro entry member counter found
    simp only [nearlyFull, List.mem_cons, List.not_mem_nil, or_false] at member
    rcases member with rfl | rfl
    · rw [← Option.some.inj found]
      decide
    · rw [← Option.some.inj found]
      decide
  have own : ∀ entry ∈ nearlyFull.entries, IsOwn .knownTerms entry.2 := by
    intro entry member
    simp only [nearlyFull, List.mem_cons, List.not_mem_nil, or_false] at member
    rcases member with rfl | rfl
    · exact ⟨255, 255, 253, rfl⟩
    · exact ⟨0, 0, 0, rfl⟩
  have two : newTerms nearlyFull firstTerms = [['a'], ['b']] := by decide
  have three : newTerms nearlyFull (firstTerms ++ secondTerms) = [['a'], ['b'], ['c']] := by decide
  constructor
  · obtain ⟨_, fitting, _⟩ := (start_assigns_exactly .knownTerms firstTerms same isLast).2.1 own
    rw [two] at fitting
    obtain ⟨coder, started, completed⟩ := fitting (by decide)
    refine ⟨coder, started, completed.count, ?_⟩
    rw [Dictionary.code?_eq_some_iff, List.Perm.mem_iff completed.entries]
    decide
  · obtain ⟨full, _⟩ := (start_assigns_exactly .knownTerms (firstTerms ++ secondTerms) same isLast).2.1 own
    rw [full, three]
    decide

end Termbase.KnownCoder
