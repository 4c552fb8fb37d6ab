import Termbase.Proofs.Coder.Growth

/-! Starts whose lists of vocabularies continue one another. The dictionaries that they make of one dictionary,
or of each other's, are nested as their lists are. -/

namespace Termbase

namespace Dictionary.Within

variable {smaller middle larger other : Dictionary}

theorem trans (first : smaller.Within middle) (second : middle.Within larger) : smaller.Within larger :=
  List.Subset.trans first second

theorem of_same (same : smaller.Same larger) : smaller.Within larger := List.Perm.subset same

theorem code? (within : smaller.Within larger) {iri : Iri} {code : Code}
    (found : smaller.code? iri = some code) : larger.code? iri = some code := by
  rw [code?_eq_some_iff] at found ⊢
  exact within found

theorem iri? (within : smaller.Within larger) {iri : Iri} {code : Code}
    (found : smaller.iri? code = some iri) : larger.iri? code = some iri := by
  rw [iri?_eq_some_iff] at found ⊢
  exact within found

theorem code_agrees (comparable : smaller.Within larger ∨ larger.Within smaller) {iri : Iri} {code other : Code}
    (first : smaller.code? iri = some code) (second : larger.code? iri = some other) : code = other := by
  rcases comparable with within | within
  · rw [within.code? first] at second
    exact Option.some.inj second
  · rw [within.code? second] at first
    exact (Option.some.inj first).symm

theorem iri_agrees (comparable : smaller.Within larger ∨ larger.Within smaller) {code : Code} {iri other : Iri}
    (first : smaller.iri? code = some iri) (second : larger.iri? code = some other) : iri = other := by
  rcases comparable with within | within
  · rw [within.iri? first] at second
    exact Option.some.inj second
  · rw [within.iri? second] at first
    exact (Option.some.inj first).symm

end Dictionary.Within

namespace KnownCoder

variable {id : CoderId} {initial restored : Dictionary} {earlier later vocabularies : List Vocabulary}
  {first second whole : KnownCoder}

theorem start_congr (same : restored.Same initial)
    (started : start id restored vocabularies = .ok second) :
    ∃ first, start id initial vocabularies = .ok first ∧ second.dictionary.Same first.dictionary := by
  obtain ⟨owned, fits, grown⟩ := start_eq_ok_iff.mp started
  rw [firstFree_congr same, newTerms_congr same] at fits
  obtain ⟨first, startedFirst, grownFirst⟩ := start_ok vocabularies (owned.congr same) fits
  refine ⟨first, startedFirst, ?_⟩
  unfold Dictionary.Same
  rw [grown.entries, grownFirst.entries, firstFree_congr same, newTerms_congr same]
  exact List.Perm.append_right _ same

theorem start_longer (started : start id initial earlier = .ok first)
    (same : restored.Same first.dictionary)
    (startedSecond : start id restored (earlier ++ later) = .ok second) :
    ∃ whole, start id initial (earlier ++ later) = .ok whole ∧
      second.dictionary.Same whole.dictionary := by
  obtain ⟨owned, fits, _⟩ := start_eq_ok_iff.mp started
  obtain ⟨_, fitsSecond, grownSecond⟩ := start_eq_ok_iff.mp startedSecond
  have added := newTerms_append_of_start started later
  rw [(start_restored started same).2, newTerms_congr same, added] at fitsSecond
  have fitsWhole : Fits (firstFree initial) (newTerms initial (earlier ++ later)).length := by
    rw [newTerms_append started, List.length_append, fits_add_iff]
    exact ⟨fits, fitsSecond⟩
  obtain ⟨whole, startedWhole, grownWhole⟩ := start_ok (earlier ++ later) owned fitsWhole
  exact ⟨whole, startedWhole, (grownSecond.append started same added grownWhole).1⟩

theorem start_shorter (started : start id initial (earlier ++ later) = .ok whole)
    (same : restored.Same whole.dictionary) (startedSecond : start id restored earlier = .ok second) :
    second.dictionary = restored := by
  have none : newTerms restored earlier = [] := by
    apply missing_eq_nil_iff.mpr
    intro term member
    have listed : term ∈ (earlier ++ later).flatMap (·.terms) := by
      rw [List.flatMap_append]
      exact List.mem_append_left _ member
    rw [same.contains, contains_of_start started, decide_eq_true listed, Bool.or_true]
  apply Dictionary.ext_entries
  simp [(start_grown startedSecond).entries, none, numbered]

theorem start_nested (started : start id initial earlier = .ok first)
    (startedWhole : start id initial (earlier ++ later) = .ok whole) :
    first.dictionary.Within whole.dictionary := by
  intro entry member
  rw [(start_grown started).entries] at member
  rw [(start_grown startedWhole).entries, newTerms_append started, numbered_append, ← List.append_assoc]
  exact List.mem_append_left _ member

def MadeFrom (initial : Dictionary) (lists : List (List Vocabulary)) (dictionary : Dictionary) : Prop :=
  ∃ vocabularies ∈ lists, ∃ known, start .knownTerms initial vocabularies = .ok known ∧
    dictionary.Same known.dictionary

/-- Of any two lists, one goes on where the other ends. -/
def Nested (lists : List (List Vocabulary)) : Prop :=
  ∀ first ∈ lists, ∀ second ∈ lists, first <+: second ∨ second <+: first

section Made

variable {lists : List (List Vocabulary)} {left right : Dictionary}

theorem madeFrom_of_start (nested : Nested lists) (listed : vocabularies ∈ lists)
    (held : restored.Same initial ∨ MadeFrom initial lists restored)
    (started : start .knownTerms restored vocabularies = .ok second) :
    MadeFrom initial lists second.dictionary := by
  rcases held with same | ⟨others, othersListed, first, startedFirst, same⟩
  · obtain ⟨first, startedFirst, sameFirst⟩ := start_congr same started
    exact ⟨vocabularies, listed, first, startedFirst, sameFirst⟩
  · rcases nested others othersListed vocabularies listed with ⟨later, rfl⟩ | ⟨later, rfl⟩
    · obtain ⟨whole, startedWhole, sameWhole⟩ := start_longer startedFirst same started
      exact ⟨_, listed, whole, startedWhole, sameWhole⟩
    · rw [start_shorter startedFirst same started]
      exact ⟨_, othersListed, first, startedFirst, same⟩

theorem MadeFrom.forall_iris {holds : Iri → Prop} (made : MadeFrom initial lists restored)
    (old : ∀ entry ∈ initial.entries, holds entry.1)
    (new : ∀ vocabularies ∈ lists, ∀ term ∈ vocabularies.flatMap (·.terms), holds term) :
    ∀ entry ∈ restored.entries, holds entry.1 := by
  obtain ⟨vocabularies, listed, known, started, same⟩ := made
  intro entry member
  have contained : known.dictionary.contains entry.1 = true := by
    rw [← same.contains]
    exact Dictionary.contains_iff.mpr (List.mem_map_of_mem member)
  rw [contains_of_start started, Bool.or_eq_true, Dictionary.contains_iff, decide_eq_true_eq] at contained
  rcases contained with before | added
  · obtain ⟨other, otherMember, same⟩ := List.mem_map.mp before
    rw [← same]
    exact old other otherMember
  · exact new vocabularies listed entry.1 added

theorem MadeFrom.exists_same (initial : Dictionary) (equal : ∀ others ∈ lists, others = vocabularies) :
    ∃ final : Dictionary, ∀ dictionary, MadeFrom initial lists dictionary → dictionary.Same final := by
  cases started : start .knownTerms initial vocabularies with
  | error error =>
      refine ⟨initial, ?_⟩
      rintro dictionary ⟨others, listed, known, startedOthers, _⟩
      rw [equal others listed, started] at startedOthers
      cases startedOthers
  | ok known =>
      refine ⟨known.dictionary, ?_⟩
      rintro dictionary ⟨others, listed, other, startedOthers, same⟩
      rw [equal others listed, started] at startedOthers
      cases startedOthers
      exact same

theorem within_of_madeFrom (made : MadeFrom initial lists right) (same : left.Same initial) :
    left.Within right := by
  obtain ⟨vocabularies, _, known, started, sameKnown⟩ := made
  have first : left.Within initial := Dictionary.Within.of_same same
  exact (first.trans (start_within started)).trans (Dictionary.Within.of_same sameKnown.symm)

theorem within_or_within_of_madeFrom (nested : Nested lists) (madeLeft : MadeFrom initial lists left)
    (madeRight : MadeFrom initial lists right) : left.Within right ∨ right.Within left := by
  obtain ⟨first, firstListed, firstKnown, firstStarted, firstSame⟩ := madeLeft
  obtain ⟨second, secondListed, secondKnown, secondStarted, secondSame⟩ := madeRight
  have toFirst : left.Within firstKnown.dictionary := Dictionary.Within.of_same firstSame
  have fromFirst : firstKnown.dictionary.Within left := Dictionary.Within.of_same firstSame.symm
  have toSecond : right.Within secondKnown.dictionary := Dictionary.Within.of_same secondSame
  have fromSecond : secondKnown.dictionary.Within right := Dictionary.Within.of_same secondSame.symm
  rcases nested first firstListed second secondListed with ⟨later, rfl⟩ | ⟨later, rfl⟩
  · exact Or.inl ((toFirst.trans (start_nested firstStarted secondStarted)).trans fromSecond)
  · exact Or.inr ((toSecond.trans (start_nested secondStarted firstStarted)).trans fromFirst)

theorem within_or_within (nested : Nested lists)
    (heldLeft : left.Same initial ∨ MadeFrom initial lists left)
    (heldRight : right.Same initial ∨ MadeFrom initial lists right) :
    left.Within right ∨ right.Within left := by
  rcases heldLeft with sameLeft | madeLeft
  · rcases heldRight with sameRight | madeRight
    · exact Or.inl (Dictionary.Within.of_same (sameLeft.trans sameRight.symm))
    · exact Or.inl (within_of_madeFrom madeRight sameLeft)
  · rcases heldRight with sameRight | madeRight
    · exact Or.inr (within_of_madeFrom madeLeft sameRight)
    · exact within_or_within_of_madeFrom nested madeLeft madeRight

end Made

end KnownCoder

end Termbase
