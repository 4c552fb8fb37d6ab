import Termbase.Proofs.Coder.Counter

/-! What a start of the coder of known terms makes of a loaded dictionary: the missing terms follow its
entries, with the counters after the first free one. -/

namespace Termbase

namespace KnownCoder

def missing (dictionary : Dictionary) (terms : List Iri) : List Iri :=
  (terms.filter fun term => !dictionary.contains term).eraseDups

def numbered (id : CoderId) (counter : Nat) : List Iri → List (Iri × Code)
  | [] => []
  | term :: rest => (term, codeOf id (counter + 1)) :: numbered id (counter + 1) rest

/-- Whether there are codes for so many more terms. Without new terms even an overfull dictionary is fine. -/
def Fits (counter count : Nat) : Prop := count = 0 ∨ counter + count ≤ capacity

theorem fits_add_iff {counter first second : Nat} :
    Fits counter (first + second) ↔ Fits counter first ∧ Fits (counter + first) second := by
  simp only [Fits]
  omega

section Missing

variable {dictionary extended : Dictionary}

theorem missing_congr (same : ∀ term, dictionary.contains term = extended.contains term)
    (terms : List Iri) : missing dictionary terms = missing extended terms := by
  simp only [missing, same]

theorem missing_cons_known {term : Iri} (known : dictionary.contains term = true) (terms : List Iri) :
    missing dictionary (term :: terms) = missing dictionary terms := by
  simp [missing, known]

theorem mem_missing {term : Iri} {terms : List Iri} :
    term ∈ missing dictionary terms ↔ term ∈ terms ∧ dictionary.contains term = false := by
  simp [missing, List.mem_eraseDups]

theorem missing_eq_nil_iff {terms : List Iri} :
    missing dictionary terms = [] ↔ ∀ term ∈ terms, dictionary.contains term = true := by
  simp [List.eq_nil_iff_forall_not_mem, mem_missing]

theorem contains_added {added : List (Iri × Code)}
    (entries : extended.entries = dictionary.entries ++ added) (term : Iri) :
    extended.contains term = (dictionary.contains term || decide (term ∈ added.map (·.1))) := by
  rw [Bool.eq_iff_iff, Bool.or_eq_true, Dictionary.contains_iff, Dictionary.contains_iff, entries]
  simp [List.map_append]

theorem missing_cons_new {term : Iri} {code : Code} (unknown : dictionary.contains term = false)
    (entries : extended.entries = dictionary.entries ++ [(term, code)]) (terms : List Iri) :
    missing dictionary (term :: terms) = term :: missing extended terms := by
  simp only [missing, unknown, List.filter_cons, Bool.not_false, if_true, List.eraseDups_cons,
    List.filter_filter]
  congr 2
  apply List.filter_congr
  intro other _
  rw [contains_added entries]
  by_cases same : other = term
  · simp [same]
  · simp [same]

theorem missing_append {first : List Iri}
    (grown : ∀ term, extended.contains term = (dictionary.contains term || decide (term ∈ first)))
    (second : List Iri) :
    missing dictionary (first ++ second) = missing dictionary first ++ missing extended second := by
  simp only [missing, List.filter_append, List.eraseDups_append]
  congr 2
  rw [List.removeAll, List.filter_filter]
  apply List.filter_congr
  intro term _
  rw [grown]
  simp only [List.elem_eq_mem, List.mem_filter]
  cases dictionary.contains term <;> simp

end Missing

theorem map_fst_numbered (id : CoderId) (counter : Nat) (terms : List Iri) :
    (numbered id counter terms).map (·.1) = terms := by
  induction terms generalizing counter with
  | nil => rfl
  | cons term terms ih => simp [numbered, ih]

theorem numbered_append (id : CoderId) (counter : Nat) (first second : List Iri) :
    numbered id counter (first ++ second) =
      numbered id counter first ++ numbered id (counter + first.length) second := by
  induction first generalizing counter with
  | nil => rfl
  | cons term first ih =>
      simp only [List.cons_append, numbered, ih, List.length_cons]
      rw [Nat.add_right_comm, Nat.add_assoc]

theorem mem_numbered {id : CoderId} {counter : Nat} {terms : List Iri} {entry : Iri × Code}
    (member : entry ∈ numbered id counter terms) :
    ∃ value, counter < value ∧ value ≤ counter + terms.length ∧ entry.2 = codeOf id value := by
  induction terms generalizing counter with
  | nil => cases member
  | cons term terms ih =>
      simp only [numbered, List.mem_cons, List.length_cons] at member ⊢
      rcases member with rfl | later
      · exact ⟨counter + 1, by omega, by omega, rfl⟩
      · obtain ⟨value, lower, upper, same⟩ := ih later
        exact ⟨value, by omega, by omega, same⟩

/-- What holds of a dictionary in the making: it has the coder's codes only, and the last counter given out
bounds theirs and their number. -/
structure Counted (id : CoderId) (progress : Progress) : Prop where
  owned : Owned id progress.dictionary
  bound : firstFree progress.dictionary ≤ progress.counter

structure Registered (id : CoderId) (before : Progress) (new : List Iri) (after : Progress) : Prop where
  entries : after.dictionary.entries =
    before.dictionary.entries ++ numbered id before.counter new
  counter : after.counter = before.counter + new.length
  added : after.added = before.added + new.length

theorem Registered.nil (id : CoderId) (progress : Progress) : Registered id progress [] progress := by
  constructor <;> simp [numbered]

theorem Registered.append {id : CoderId} {before middle after : Progress} {first second : List Iri}
    (earlier : Registered id before first middle) (later : Registered id middle second after) :
    Registered id before (first ++ second) after := by
  constructor
  · rw [later.entries, earlier.entries, earlier.counter, numbered_append, List.append_assoc]
  · rw [later.counter, earlier.counter, List.length_append, Nat.add_assoc]
  · rw [later.added, earlier.added, List.length_append, Nat.add_assoc]

theorem Counted.free {id : CoderId} {progress : Progress} (counted : Counted id progress)
    (room : progress.counter < capacity) :
    codeOf id (progress.counter + 1) ∉ progress.dictionary.entries.map (·.2) := by
  intro used
  obtain ⟨entry, member, same⟩ := List.mem_map.mp used
  have found : counter? entry.2 = some (progress.counter + 1) := by
    rw [same, counter?_codeOf id room]
  have := (firstFree_le_iff.mp counted.bound).2 entry member _ found
  omega

theorem Registered.counted {id : CoderId} {before after : Progress} {new : List Iri}
    (registered : Registered id before new after) (counted : Counted id before)
    (fits : Fits before.counter new.length) : Counted id after := by
  have numberedBound (entry) (member : entry ∈ numbered id before.counter new) :
      ∃ value ≤ capacity, value ≤ after.counter ∧ entry.2 = codeOf id value := by
    obtain ⟨value, lower, upper, same⟩ := mem_numbered member
    have bounded : value ≤ capacity := by
      simp only [Fits] at fits
      omega
    exact ⟨value, bounded, by rw [registered.counter]; exact upper, same⟩
  have bounds := firstFree_le_iff.mp counted.bound
  constructor
  · intro entry member
    rw [registered.entries, List.mem_append] at member
    rcases member with old | new
    · exact counted.owned entry old
    · obtain ⟨value, bounded, _, same⟩ := numberedBound entry new
      exact mayOwn_iff.mpr ⟨value, bounded, same⟩
  · apply firstFree_le_iff.mpr
    constructor
    · have size := congrArg List.length (map_fst_numbered id before.counter new)
      simp only [Dictionary.size, registered.entries, List.length_append, List.length_map] at bounds size ⊢
      rw [registered.counter, size]
      omega
    · intro entry member counter found
      rw [registered.entries, List.mem_append] at member
      rcases member with old | new
      · have := bounds.2 entry old counter found
        rw [registered.counter]
        omega
      · obtain ⟨value, bounded, upper, same⟩ := numberedBound entry new
        rw [same, counter?_codeOf id bounded] at found
        cases found
        exact upper

theorem register_known {id : CoderId} {progress : Progress} {term : Iri}
    (known : progress.dictionary.contains term = true) : progress.register id term = .ok progress := by
  simp [Progress.register, known]

theorem register_full {id : CoderId} {progress : Progress} {term : Iri}
    (unknown : progress.dictionary.contains term = false) (full : capacity ≤ progress.counter) :
    progress.register id term = .error (.dictionaryFull capacity) := by
  simp [Progress.register, unknown, full]

theorem register_new {id : CoderId} {progress : Progress} {term : Iri} (counted : Counted id progress)
    (unknown : progress.dictionary.contains term = false) (room : progress.counter < capacity) :
    ∃ next, progress.register id term = .ok next ∧ Registered id progress [term] next := by
  have absent : term ∉ progress.dictionary.entries.map (·.1) := by
    rw [← Dictionary.contains_iff, unknown]
    simp
  obtain ⟨extended, inserted, entries⟩ := Dictionary.insert_new absent (counted.free room)
  refine ⟨⟨extended, progress.counter + 1, progress.added + 1⟩, ?_, ?_⟩
  · simp only [Progress.register, unknown, Bool.false_eq_true, if_false, Nat.not_le.mpr room, inserted]
    rfl
  · constructor
    · simpa [numbered] using entries
    · rfl
    · rfl

theorem registerAll_cons (id : CoderId) (progress : Progress) (term : Iri) (terms : List Iri) :
    progress.registerAll id (term :: terms) =
      (progress.register id term).bind fun next => next.registerAll id terms :=
  rfl

theorem registerAll_ok {id : CoderId} {progress : Progress} {terms : List Iri}
    (counted : Counted id progress)
    (fits : Fits progress.counter (missing progress.dictionary terms).length) :
    ∃ after, progress.registerAll id terms = .ok after ∧
      Registered id progress (missing progress.dictionary terms) after := by
  induction terms generalizing progress with
  | nil => exact ⟨progress, rfl, Registered.nil id progress⟩
  | cons term terms ih =>
      cases known : progress.dictionary.contains term with
      | true =>
          rw [missing_cons_known known] at fits ⊢
          rw [registerAll_cons, register_known known]
          exact ih counted fits
      | false =>
          have room : progress.counter < capacity := by
            have nonempty : missing progress.dictionary (term :: terms) ≠ [] := by
              intro empty
              have := missing_eq_nil_iff.mp empty term List.mem_cons_self
              rw [known] at this
              cases this
            have positive := List.length_pos_iff.mpr nonempty
            simp only [Fits] at fits
            omega
          obtain ⟨next, registered, step⟩ := register_new counted known room
          rw [missing_cons_new known (by simpa [numbered] using step.entries)] at fits ⊢
          have parts := fits_add_iff.mp (show Fits progress.counter (1 + _) by
            rwa [List.length_cons, Nat.add_comm] at fits)
          have nextCounted := step.counted counted parts.1
          obtain ⟨after, finished, rest⟩ := ih nextCounted (by rw [step.counter]; exact parts.2)
          refine ⟨after, ?_, step.append rest⟩
          rw [registerAll_cons, registered]
          exact finished

theorem registerAll_full {id : CoderId} {progress : Progress} {terms : List Iri}
    (counted : Counted id progress)
    (crowded : ¬ Fits progress.counter (missing progress.dictionary terms).length) :
    progress.registerAll id terms = .error (.dictionaryFull capacity) := by
  induction terms generalizing progress with
  | nil => exact absurd (Or.inl rfl) crowded
  | cons term terms ih =>
      cases known : progress.dictionary.contains term with
      | true =>
          rw [missing_cons_known known] at crowded
          rw [registerAll_cons, register_known known]
          exact ih counted crowded
      | false =>
          by_cases room : progress.counter < capacity
          · obtain ⟨next, registered, step⟩ := register_new counted known room
            rw [missing_cons_new known (by simpa [numbered] using step.entries), List.length_cons,
              Nat.add_comm, fits_add_iff] at crowded
            have one : Fits progress.counter 1 := Or.inr room
            have nextCounted := step.counted counted one
            rw [registerAll_cons, registered]
            apply ih nextCounted
            intro fits
            rw [step.counter] at fits
            exact crowded ⟨one, fits⟩
          · rw [registerAll_cons, register_full known (Nat.not_lt.mp room)]
            rfl

def newTerms (loaded : Dictionary) (vocabularies : List Vocabulary) : List Iri :=
  missing loaded (vocabularies.flatMap (·.terms))

theorem counted_initial {id : CoderId} {loaded : Dictionary} (owned : Owned id loaded) :
    Counted id ⟨loaded, firstFree loaded, 0⟩ :=
  ⟨owned, Nat.le_refl _⟩

structure Grown (id : CoderId) (loaded : Dictionary) (vocabularies : List Vocabulary) (coder : KnownCoder) :
    Prop where
  owner : coder.id = id
  entries : coder.dictionary.entries =
    loaded.entries ++ numbered id (firstFree loaded) (newTerms loaded vocabularies)
  count : coder.newlyRegistered = (newTerms loaded vocabularies).length

section Start

variable {id : CoderId} {loaded : Dictionary} {vocabularies : List Vocabulary}

theorem Grown.unique {left right : KnownCoder} (first : Grown id loaded vocabularies left)
    (second : Grown id loaded vocabularies right) : left = right := by
  obtain ⟨leftId, leftDictionary, leftCount⟩ := left
  obtain ⟨rightId, rightDictionary, rightCount⟩ := right
  have sameId : leftId = rightId := first.owner.trans second.owner.symm
  have sameDictionary : leftDictionary = rightDictionary :=
    Dictionary.ext_entries (first.entries.trans second.entries.symm)
  have sameCount : leftCount = rightCount := first.count.trans second.count.symm
  rw [sameId, sameDictionary, sameCount]

theorem start_foreign {iri : Iri} {code : Code} (found : foreign? id loaded = some (iri, code)) :
    start id loaded vocabularies = .error (.foreignEntry iri code id) := by
  simp [start, found]

theorem start_eq_of_owned (owned : Owned id loaded) :
    start id loaded vocabularies =
      ((Progress.mk loaded (firstFree loaded) 0).registerAll id (vocabularies.flatMap (·.terms))).map
        fun progress => ⟨id, progress.dictionary, progress.added⟩ := by
  rw [start, foreign?_eq_none_iff.mpr owned]
  cases (Progress.mk loaded (firstFree loaded) 0).registerAll id (vocabularies.flatMap (·.terms)) <;> rfl

theorem start_ok (vocabularies : List Vocabulary) (owned : Owned id loaded)
    (fits : Fits (firstFree loaded) (newTerms loaded vocabularies).length) :
    ∃ coder, start id loaded vocabularies = .ok coder ∧ Grown id loaded vocabularies coder := by
  obtain ⟨after, finished, registered⟩ := registerAll_ok (counted_initial owned) fits
  refine ⟨⟨id, after.dictionary, after.added⟩, ?_, ?_⟩
  · rw [start_eq_of_owned owned, finished]
    rfl
  · exact ⟨rfl, registered.entries, by rw [registered.added, Nat.zero_add]; rfl⟩

theorem start_full (owned : Owned id loaded)
    (crowded : ¬ Fits (firstFree loaded) (newTerms loaded vocabularies).length) :
    start id loaded vocabularies = .error (.dictionaryFull capacity) := by
  rw [start_eq_of_owned owned, registerAll_full (counted_initial owned) crowded]
  rfl

theorem start_eq_ok_iff {coder : KnownCoder} :
    start id loaded vocabularies = .ok coder ↔
      Owned id loaded ∧ Fits (firstFree loaded) (newTerms loaded vocabularies).length ∧
        Grown id loaded vocabularies coder := by
  constructor
  · intro started
    have owned : Owned id loaded := by
      rw [← foreign?_eq_none_iff]
      cases found : foreign? id loaded with
      | none => rfl
      | some entry =>
          rw [start_foreign found] at started
          cases started
    by_cases fits : Fits (firstFree loaded) (newTerms loaded vocabularies).length
    · obtain ⟨made, startedMade, grown⟩ := start_ok vocabularies owned fits
      rw [startedMade] at started
      cases started
      exact ⟨owned, fits, grown⟩
    · rw [start_full owned fits] at started
      cases started
  · rintro ⟨owned, fits, grown⟩
    obtain ⟨made, started, grownMade⟩ := start_ok vocabularies owned fits
    rw [started, grownMade.unique grown]

end Start

end KnownCoder

end Termbase
