import Termbase.Iri.Split

/-! Where an identifier is cut, said without the search for the place, and what can follow a namespace without
moving the cut. The two parts of an identifier make it up again. -/

namespace Termbase

section LastDelimiter

variable {delimiter : Char} {text before after : Text}

theorem splitAfterLast?_eq_none_iff : splitAfterLast? delimiter text = none ↔ delimiter ∉ text := by
  induction text with
  | nil => simp [splitAfterLast?]
  | cons c rest ih =>
      rw [splitAfterLast?, List.mem_cons, not_or, ← ih]
      cases splitAfterLast? delimiter rest with
      | some split => simp
      | none =>
          by_cases same : c = delimiter
          · simp [same]
          · simp [same, Ne.symm same]

theorem parts_of_splitAfterLast? (split : splitAfterLast? delimiter text = some (before, after)) :
    before ++ after = text ∧ before.getLast? = some delimiter ∧ delimiter ∉ after := by
  induction text generalizing before with
  | nil => simp [splitAfterLast?] at split
  | cons c rest ih =>
      cases later : splitAfterLast? delimiter rest with
      | some found =>
          simp only [splitAfterLast?, later, Option.some.injEq, Prod.mk.injEq] at split
          obtain ⟨rfl, rfl⟩ := split
          obtain ⟨joined, last, absent⟩ := ih later
          refine ⟨by rw [List.cons_append, joined], ?_, absent⟩
          rw [List.getLast?_cons, last]
          rfl
      | none =>
          simp only [splitAfterLast?, later, Option.ite_none_right_eq_some, Option.some.injEq,
            Prod.mk.injEq] at split
          obtain ⟨rfl, rfl, rfl⟩ := split
          exact ⟨rfl, rfl, splitAfterLast?_eq_none_iff.mp later⟩

theorem splitAfterLast?_append (last : before.getLast? = some delimiter) (absent : delimiter ∉ after) :
    splitAfterLast? delimiter (before ++ after) = some (before, after) := by
  induction before with
  | nil => cases last
  | cons c before ih =>
      rw [List.cons_append, splitAfterLast?]
      cases before with
      | nil =>
          have same : c = delimiter := Option.some.inj last
          rw [List.nil_append, splitAfterLast?_eq_none_iff.mpr absent]
          exact if_pos same
      | cons next before =>
          rw [List.getLast?_cons_cons] at last
          rw [ih last]

end LastDelimiter

/-- An identifier is cut between the two texts: after its last number sign, or after its last slash if it has no
number sign, or after its last colon if it has no slash either, or at its end if it has none of the three. -/
inductive IsCut : (start rest : Text) → Prop
  | sign {start rest : Text} : start.getLast? = some '#' → '#' ∉ rest → IsCut start rest
  | slash {start rest : Text} : '#' ∉ start ++ rest → start.getLast? = some '/' → '/' ∉ rest →
      IsCut start rest
  | colon {start rest : Text} : '#' ∉ start ++ rest → '/' ∉ start ++ rest → start.getLast? = some ':' →
      ':' ∉ rest → IsCut start rest
  | whole {start : Text} : '#' ∉ start → '/' ∉ start → ':' ∉ start → IsCut start []

theorem isCut_splitIri (iri : Text) :
    (splitIri iri).1 ++ (splitIri iri).2 = iri ∧ IsCut (splitIri iri).1 (splitIri iri).2 := by
  unfold splitIri
  cases sign : splitAfterLast? '#' iri with
  | some split =>
      obtain ⟨joined, last, absent⟩ := parts_of_splitAfterLast? sign
      exact ⟨joined, .sign last absent⟩
  | none =>
      have noSign := splitAfterLast?_eq_none_iff.mp sign
      cases slash : splitAfterLast? '/' iri with
      | some split =>
          obtain ⟨joined, last, absent⟩ := parts_of_splitAfterLast? slash
          rw [← joined] at noSign
          exact ⟨joined, .slash noSign last absent⟩
      | none =>
          have noSlash := splitAfterLast?_eq_none_iff.mp slash
          cases colon : splitAfterLast? ':' iri with
          | some split =>
              obtain ⟨joined, last, absent⟩ := parts_of_splitAfterLast? colon
              rw [← joined] at noSign noSlash
              exact ⟨joined, .colon noSign noSlash last absent⟩
          | none =>
              exact ⟨List.append_nil iri, .whole noSign noSlash (splitAfterLast?_eq_none_iff.mp colon)⟩

@[simp] theorem splitIri_append (iri : Text) : (splitIri iri).1 ++ (splitIri iri).2 = iri :=
  (isCut_splitIri iri).1

section Cut

variable {iri start rest localName : Text}

theorem IsCut.splitIri_eq (cut : IsCut start rest) : splitIri (start ++ rest) = (start, rest) := by
  cases cut with
  | sign last absent => rw [splitIri, splitAfterLast?_append last absent]
  | slash noSign last absent =>
      rw [splitIri, splitAfterLast?_eq_none_iff.mpr noSign, splitAfterLast?_append last absent]
  | colon noSign noSlash last absent =>
      rw [splitIri, splitAfterLast?_eq_none_iff.mpr noSign, splitAfterLast?_eq_none_iff.mpr noSlash,
        splitAfterLast?_append last absent]
      rfl
  | whole noSign noSlash noColon =>
      rw [List.append_nil, splitIri, splitAfterLast?_eq_none_iff.mpr noSign,
        splitAfterLast?_eq_none_iff.mpr noSlash, splitAfterLast?_eq_none_iff.mpr noColon]
      rfl

theorem splitIri_eq_iff : splitIri iri = (start, rest) ↔ start ++ rest = iri ∧ IsCut start rest := by
  constructor
  · intro split
    have cut := isCut_splitIri iri
    rwa [split] at cut
  · rintro ⟨rfl, cut⟩
    exact cut.splitIri_eq

theorem IsCut.alone (cut : IsCut start rest) : IsCut start [] := by
  cases cut with
  | sign last _ => exact .sign last List.not_mem_nil
  | slash noSign last _ =>
      refine .slash ?_ last List.not_mem_nil
      rw [List.append_nil]
      exact fun member => noSign (List.mem_append_left _ member)
  | colon noSign noSlash last _ =>
      refine .colon ?_ ?_ last List.not_mem_nil
      · rw [List.append_nil]
        exact fun member => noSign (List.mem_append_left _ member)
      · rw [List.append_nil]
        exact fun member => noSlash (List.mem_append_left _ member)
  | whole noSign noSlash noColon => exact .whole noSign noSlash noColon

/-- What may follow a text that is cut at its own end, so that the cut stays there: a delimiter only where the
text has one that comes before it in the search, and nothing at all after a text without delimiters. -/
structure FitsBehind (start localName : Text) : Prop where
  sign : '#' ∉ localName
  slash : '/' ∈ localName → '#' ∈ start
  colon : ':' ∈ localName → '#' ∈ start ∨ '/' ∈ start
  whole : '#' ∉ start → '/' ∉ start → ':' ∉ start → localName = []

theorem IsCut.fitsBehind (cut : IsCut start localName) : FitsBehind start localName := by
  cases cut with
  | sign last absent =>
      have present : '#' ∈ start := List.mem_of_getLast? last
      exact ⟨absent, fun _ => present, fun _ => Or.inl present, fun noSign => absurd present noSign⟩
  | slash noSign last absent =>
      have present : '/' ∈ start := List.mem_of_getLast? last
      exact ⟨fun member => noSign (List.mem_append_right _ member), fun member => absurd member absent,
        fun _ => Or.inr present, fun _ noSlash => absurd present noSlash⟩
  | colon noSign noSlash last absent =>
      have present : ':' ∈ start := List.mem_of_getLast? last
      exact ⟨fun member => noSign (List.mem_append_right _ member),
        fun member => absurd (List.mem_append_right _ member) noSlash, fun member => absurd member absent,
        fun _ _ noColon => absurd present noColon⟩
  | whole => exact ⟨List.not_mem_nil, nofun, nofun, fun _ _ _ => rfl⟩

theorem isCut_iff_fitsBehind (alone : IsCut start []) : IsCut start localName ↔ FitsBehind start localName := by
  refine ⟨IsCut.fitsBehind, ?_⟩
  intro fits
  cases alone with
  | sign last => exact .sign last fits.sign
  | slash noSign last =>
      rw [List.append_nil] at noSign
      refine .slash ?_ last fun member => noSign (fits.slash member)
      rw [List.mem_append, not_or]
      exact ⟨noSign, fits.sign⟩
  | colon noSign noSlash last =>
      rw [List.append_nil] at noSign noSlash
      refine .colon ?_ ?_ last ?_
      · rw [List.mem_append, not_or]
        exact ⟨noSign, fits.sign⟩
      · rw [List.mem_append, not_or]
        exact ⟨noSlash, fun member => noSign (fits.slash member)⟩
      · intro member
        exact (fits.colon member).elim noSign noSlash
  | whole noSign noSlash noColon =>
      rw [fits.whole noSign noSlash noColon]
      exact .whole noSign noSlash noColon

theorem splitIri_append_iff (alone : splitIri start = (start, [])) :
    splitIri (start ++ localName) = (start, localName) ↔ FitsBehind start localName := by
  rw [splitIri_eq_iff, ← isCut_iff_fitsBehind (splitIri_eq_iff.mp alone).2]
  exact and_iff_right rfl

end Cut

end Termbase
