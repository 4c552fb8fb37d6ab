import Termbase.Proofs.Coder.Registration

/-! Growing a dictionary step by step. Each start recomputes its counter from what was loaded, and yet it
goes on where the start before it ended. -/

namespace Termbase

def Dictionary.Within (smaller larger : Dictionary) : Prop := smaller.entries ⊆ larger.entries

namespace KnownCoder

variable {id : CoderId} {loaded : Dictionary} {vocabularies earlier later : List Vocabulary}
  {coder first second : KnownCoder}

theorem start_grown (started : start id loaded vocabularies = .ok coder) :
    Grown id loaded vocabularies coder :=
  (start_eq_ok_iff.mp started).2.2

theorem start_counted (started : start id loaded vocabularies = .ok coder) :
    Counted id ⟨coder.dictionary, firstFree loaded + (newTerms loaded vocabularies).length, 0⟩ := by
  obtain ⟨owned, fits, grown⟩ := start_eq_ok_iff.mp started
  have registered : Registered id ⟨loaded, firstFree loaded, 0⟩ (newTerms loaded vocabularies)
      ⟨coder.dictionary, firstFree loaded + (newTerms loaded vocabularies).length,
        0 + (newTerms loaded vocabularies).length⟩ := ⟨grown.entries, rfl, rfl⟩
  obtain ⟨grownOwned, bound⟩ := registered.counted (counted_initial owned) fits
  exact ⟨grownOwned, bound⟩

theorem start_within (started : start id loaded vocabularies = .ok coder) :
    loaded.Within coder.dictionary := by
  intro entry member
  rw [(start_grown started).entries]
  exact List.mem_append_left _ member

theorem firstFree_of_start (started : start id loaded vocabularies = .ok coder) :
    firstFree coder.dictionary = firstFree loaded + (newTerms loaded vocabularies).length := by
  obtain ⟨_, fits, grown⟩ := start_eq_ok_iff.mp started
  have entries := grown.entries
  apply Nat.le_antisymm (start_counted started).bound
  have bounds := firstFree_le_iff.mp (Nat.le_refl (firstFree coder.dictionary))
  generalize newTerms loaded vocabularies = new at entries fits ⊢
  cases reversed : new.reverse with
  | nil =>
      -- Nothing is new, so the bound has to come from the loaded entries themselves.
      have empty : new = [] := by simpa using reversed
      subst empty
      have same : coder.dictionary = loaded := Dictionary.ext_entries (by simpa [numbered] using entries)
      rw [same]
      exact Nat.le_refl _
  | cons last before =>
      have split : new = before.reverse ++ [last] := by simpa using congrArg List.reverse reversed
      subst split
      have member : (last, codeOf id (firstFree loaded + (before.reverse ++ [last]).length)) ∈
          coder.dictionary.entries := by
        rw [entries]
        apply List.mem_append_right
        rw [numbered_append]
        apply List.mem_append_right
        simp [numbered, Nat.add_assoc]
      have bounded : firstFree loaded + (before.reverse ++ [last]).length ≤ capacity := by
        simp only [Fits, List.length_append, List.length_singleton] at fits ⊢
        omega
      exact bounds.2 _ member _ (counter?_codeOf id bounded)

theorem contains_of_start (started : start id loaded vocabularies = .ok coder) (term : Iri) :
    coder.dictionary.contains term =
      (loaded.contains term || decide (term ∈ vocabularies.flatMap (·.terms))) := by
  rw [contains_added (start_grown started).entries, map_fst_numbered, Bool.eq_iff_iff]
  simp only [Bool.or_eq_true, decide_eq_true_eq, newTerms, mem_missing]
  cases loaded.contains term <;> simp

theorem newTerms_congr {left right : Dictionary} (same : left.Same right) (vocabularies : List Vocabulary) :
    newTerms left vocabularies = newTerms right vocabularies :=
  missing_congr (fun term => same.contains term) _

theorem newTerms_append (started : start id loaded earlier = .ok first) (later : List Vocabulary) :
    newTerms loaded (earlier ++ later) = newTerms loaded earlier ++ newTerms first.dictionary later := by
  simp only [newTerms, List.flatMap_append]
  exact missing_append (contains_of_start started) _

theorem newTerms_eq_nil (started : start id loaded earlier = .ok first) :
    newTerms first.dictionary earlier = [] := by
  apply missing_eq_nil_iff.mpr
  intro term member
  simp [contains_of_start started, member]

theorem start_restored {restored : Dictionary} (started : start id loaded earlier = .ok first)
    (same : restored.Same first.dictionary) :
    Owned id restored ∧ firstFree restored = firstFree loaded + (newTerms loaded earlier).length := by
  refine ⟨(start_counted started).owned.congr same.symm, ?_⟩
  rw [firstFree_congr same, firstFree_of_start started]

theorem start_again {restored : Dictionary} (started : start id loaded earlier = .ok first)
    (same : restored.Same first.dictionary) (vocabularies : List Vocabulary)
    (fits : Fits (firstFree loaded + (newTerms loaded earlier).length)
      (newTerms first.dictionary vocabularies).length) :
    ∃ second, start id restored vocabularies = .ok second ∧ Grown id restored vocabularies second := by
  obtain ⟨owned, counter⟩ := start_restored started same
  apply start_ok vocabularies owned
  rw [counter, newTerms_congr same]
  exact fits

theorem start_idle {restored : Dictionary} (started : start id loaded earlier = .ok first)
    (same : restored.Same first.dictionary) :
    ∃ idle, start id restored earlier = .ok idle ∧ idle.dictionary = restored ∧
      idle.newlyRegistered = 0 := by
  have none := newTerms_eq_nil started
  obtain ⟨idle, startedIdle, grown⟩ := start_again started same earlier (by rw [none]; exact Or.inl rfl)
  have noneRestored : newTerms restored earlier = [] := by rw [newTerms_congr same, none]
  refine ⟨idle, startedIdle, Dictionary.ext_entries ?_, ?_⟩
  · simp [grown.entries, noneRestored, numbered]
  · simp [grown.count, noneRestored]

theorem newTerms_append_of_start (started : start id loaded earlier = .ok first) (later : List Vocabulary) :
    newTerms first.dictionary (earlier ++ later) = newTerms first.dictionary later := by
  obtain ⟨idle, startedIdle, unchanged, _⟩ := start_idle started (Dictionary.Same.refl _)
  rw [newTerms_append startedIdle, newTerms_eq_nil started, unchanged, List.nil_append]

theorem Grown.append {restored : Dictionary} {whole : KnownCoder}
    (started : start id loaded earlier = .ok first) (same : restored.Same first.dictionary)
    (added : newTerms first.dictionary vocabularies = newTerms first.dictionary later)
    (grownSecond : Grown id restored vocabularies second)
    (grownWhole : Grown id loaded (earlier ++ later) whole) :
    second.dictionary.Same whole.dictionary ∧
      first.newlyRegistered + second.newlyRegistered = whole.newlyRegistered := by
  obtain ⟨_, counter⟩ := start_restored started same
  have new : newTerms restored vocabularies = newTerms first.dictionary later := by
    rw [newTerms_congr same, added]
  constructor
  · unfold Dictionary.Same
    rw [grownSecond.entries, grownWhole.entries, counter, new, newTerms_append started,
      numbered_append, ← List.append_assoc, ← (start_grown started).entries]
    exact List.Perm.append_right _ same
  · rw [grownSecond.count, grownWhole.count, (start_grown started).count, new,
      newTerms_append started, List.length_append]

/-- Growing by two lists of vocabularies at once is the same as growing by one after the other, however the
dictionary is listed when it is loaded in between. -/
theorem start_append_stepwise (id : CoderId) (loaded : Dictionary) (earlier later : List Vocabulary) :
    (∀ whole, start id loaded (earlier ++ later) = .ok whole →
      ∃ first, start id loaded earlier = .ok first ∧ loaded.Within first.dictionary ∧
        ∀ restored : Dictionary, restored.Same first.dictionary →
          (∃ again, start id restored (earlier ++ later) = .ok again ∧
            again.dictionary.Same whole.dictionary ∧
            first.newlyRegistered + again.newlyRegistered = whole.newlyRegistered) ∧
          (∃ second, start id restored later = .ok second ∧
            second.dictionary.Same whole.dictionary ∧
            first.newlyRegistered + second.newlyRegistered = whole.newlyRegistered) ∧
          (∃ idle, start id restored earlier = .ok idle ∧
            idle.dictionary = restored ∧ idle.newlyRegistered = 0)) ∧
    (∀ first restored second, start id loaded earlier = .ok first →
      restored.Same first.dictionary → start id restored later = .ok second →
        ∃ whole, start id loaded (earlier ++ later) = .ok whole) := by
  constructor
  · intro whole startedWhole
    obtain ⟨owned, fits, grownWhole⟩ := start_eq_ok_iff.mp startedWhole
    -- The terms of the first list alone need no more counters than those of both.
    have fitsEarlier : Fits (firstFree loaded) (newTerms loaded earlier).length := by
      have prefixed : newTerms loaded earlier <+: newTerms loaded (earlier ++ later) := by
        simp only [newTerms, missing, List.flatMap_append, List.filter_append, List.eraseDups_append]
        exact List.prefix_append _ _
      have shorter := prefixed.length_le
      simp only [Fits] at fits ⊢
      omega
    obtain ⟨first, started, grown⟩ := start_ok earlier owned fitsEarlier
    refine ⟨first, started, start_within started, ?_⟩
    intro restored same
    rw [newTerms_append started, List.length_append, fits_add_iff] at fits
    have bothNew := newTerms_append_of_start started later
    refine ⟨?_, ?_, start_idle started same⟩
    · obtain ⟨again, startedAgain, grownAgain⟩ :=
        start_again started same (earlier ++ later) (by rw [bothNew]; exact fits.2)
      exact ⟨again, startedAgain, grownAgain.append started same bothNew grownWhole⟩
    · obtain ⟨second, startedSecond, grownSecond⟩ := start_again started same later fits.2
      exact ⟨second, startedSecond, grownSecond.append started same rfl grownWhole⟩
  · intro first restored second started same startedSecond
    obtain ⟨owned, fits, _⟩ := start_eq_ok_iff.mp started
    obtain ⟨_, fitsSecond, _⟩ := start_eq_ok_iff.mp startedSecond
    rw [(start_restored started same).2, newTerms_congr same] at fitsSecond
    have fitsBoth : Fits (firstFree loaded) (newTerms loaded (earlier ++ later)).length := by
      rw [newTerms_append started, List.length_append, fits_add_iff]
      exact ⟨fits, fitsSecond⟩
    obtain ⟨whole, startedWhole, _⟩ := start_ok (earlier ++ later) owned fitsBoth
    exact ⟨whole, startedWhole⟩

def gapped : Dictionary := ⟨[(['o'], codeOf .knownTerms 5)], by decide, by decide⟩

def firstTerms : List Vocabulary := [⟨[], [], [], false, [⟨[], ['a']⟩, ⟨[], ['b']⟩, ⟨[], ['a']⟩]⟩]

def secondTerms : List Vocabulary := [⟨[], [], [], false, [⟨[], ['b']⟩, ⟨[], ['c']⟩]⟩]

theorem gapped_dictionary_grows_stepwise :
    ∃ whole first second,
      start .knownTerms gapped (firstTerms ++ secondTerms) = .ok whole ∧
      whole.dictionary.code? ['c'] = some (codeOf .knownTerms 8) ∧
      start .knownTerms gapped firstTerms = .ok first ∧
      start .knownTerms first.dictionary secondTerms = .ok second ∧
      second.dictionary.Same whole.dictionary ∧
      first.newlyRegistered + second.newlyRegistered = whole.newlyRegistered := by
  have owned : Owned .knownTerms gapped := by
    unfold Owned
    decide
  have fits : Fits (firstFree gapped) (newTerms gapped (firstTerms ++ secondTerms)).length := by
    unfold Fits
    decide
  obtain ⟨whole, started, grown⟩ := start_ok (firstTerms ++ secondTerms) owned fits
  have last : whole.dictionary.code? ['c'] = some (codeOf .knownTerms 8) := by
    rw [Dictionary.code?_eq_some_iff, grown.entries]
    decide +kernel
  obtain ⟨first, startedFirst, _, goesOn⟩ :=
    (start_append_stepwise .knownTerms gapped firstTerms secondTerms).1 whole started
  obtain ⟨_, ⟨second, startedSecond, same, count⟩, _⟩ :=
    goesOn first.dictionary (Dictionary.Same.refl _)
  exact ⟨whole, first, second, started, last, startedFirst, startedSecond, same, count⟩

end KnownCoder

end Termbase
