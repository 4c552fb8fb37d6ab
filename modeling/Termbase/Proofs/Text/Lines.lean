import Termbase.Text

/-! The lines of a text, and the text of lines. Lines without line breaks are read back from their text, and a
text in which a carriage return only comes before a line feed has such lines. -/

namespace Termbase.Text

/-- A line that neither has a line feed nor ends in a carriage return, which the line end would take. -/
def IsLine (line : Text) : Prop := '\n' ∉ line ∧ line.getLast? ≠ some '\r'

def OnlyLineReturns (text : Text) : Prop :=
  ∀ before after, text = before ++ '\r' :: after → after.head? = some '\n'

section Reading

variable {line text : Text} {lines : List Text}

theorem dropCarriageReturn_eq (line : Text) :
    dropCarriageReturn line = if line.getLast? = some '\r' then line.dropLast else line := by
  unfold dropCarriageReturn
  split
  next ends =>
    obtain ⟨before, rfl⟩ := List.getLast?_eq_some_iff.mp ends
    rw [stripSuffix?_eq_some_iff.mpr rfl, List.dropLast_concat]
    rfl
  next other =>
    cases stripped : stripSuffix? ['\r'] line with
    | none => rfl
    | some before => exact absurd (List.getLast?_eq_some_iff.mpr ⟨before, stripSuffix?_eq_some_iff.mp stripped⟩) other

theorem dropCarriageReturn_of_isLine (proper : IsLine line) : dropCarriageReturn line = line := by
  rw [dropCarriageReturn_eq, if_neg proper.2]

theorem dropCarriageReturn_cons {head : Char} (other : head ≠ '\r') (line : Text) :
    dropCarriageReturn (head :: line) = head :: dropCarriageReturn line := by
  cases line with
  | nil => simp [dropCarriageReturn_eq, other]
  | cons next line =>
      rw [dropCarriageReturn_eq, dropCarriageReturn_eq, List.getLast?_cons_cons]
      split
      next => rfl
      next => rfl

theorem not_mem_dropCarriageReturn {c : Char} (absent : c ∉ line) : c ∉ dropCarriageReturn line := by
  rw [dropCarriageReturn_eq]
  split
  next => exact fun member => absent (List.dropLast_subset _ member)
  next => exact absent

theorem splitAtLineFeeds_line (unbroken : '\n' ∉ line) (rest : Text) :
    splitAtLineFeeds (line ++ '\n' :: rest) =
      (line :: (splitAtLineFeeds rest).1, (splitAtLineFeeds rest).2) := by
  induction line with
  | nil => simp [splitAtLineFeeds]
  | cons head line ih =>
      simp only [List.mem_cons, not_or] at unbroken
      simp [splitAtLineFeeds, ih unbroken.2, Ne.symm unbroken.1]

theorem splitAtLineFeeds_ofLines (unbroken : ∀ line ∈ lines, '\n' ∉ line) :
    splitAtLineFeeds (ofLines lines) = (lines, []) := by
  induction lines with
  | nil => rfl
  | cons line lines ih =>
      have rest := ih fun line member => unbroken line (List.mem_cons_of_mem _ member)
      have text : ofLines (line :: lines) = line ++ '\n' :: ofLines lines := by simp [ofLines]
      rw [text, splitAtLineFeeds_line (unbroken line List.mem_cons_self), rest]

theorem lines_ofLines_of_unbroken (unbroken : ∀ line ∈ lines, '\n' ∉ line) :
    Text.lines (ofLines lines) = lines.map dropCarriageReturn := by
  simp [Text.lines, splitAtLineFeeds_ofLines unbroken]

theorem lines_ofLines (proper : ∀ line ∈ lines, IsLine line) : Text.lines (ofLines lines) = lines := by
  have kept : lines.map dropCarriageReturn = lines.map id :=
    List.map_congr_left fun line member => dropCarriageReturn_of_isLine (proper line member)
  rw [lines_ofLines_of_unbroken fun line member => (proper line member).1, kept, List.map_id]

theorem unbroken_of_splitAtLineFeeds (text : Text) :
    (∀ line ∈ (splitAtLineFeeds text).1, '\n' ∉ line) ∧ '\n' ∉ (splitAtLineFeeds text).2 := by
  induction text with
  | nil => simp [splitAtLineFeeds]
  | cons head text ih =>
      obtain ⟨complete, last⟩ := ih
      by_cases feed : head = '\n'
      · simpa [splitAtLineFeeds, feed, last] using complete
      · cases split : (splitAtLineFeeds text).1 with
        | nil => simp [splitAtLineFeeds, feed, split, Ne.symm feed, last]
        | cons line lines =>
            rw [split, List.forall_mem_cons] at complete
            simp only [splitAtLineFeeds, feed, if_false, split, List.mem_cons, forall_eq_or_imp, not_or]
            exact ⟨⟨⟨Ne.symm feed, complete.1⟩, complete.2⟩, last⟩

theorem unbroken_of_mem_lines (member : line ∈ Text.lines text) : '\n' ∉ line := by
  obtain ⟨complete, last⟩ := unbroken_of_splitAtLineFeeds text
  rcases List.mem_append.mp member with read | final
  · obtain ⟨whole, present, rfl⟩ := List.mem_map.mp read
    exact not_mem_dropCarriageReturn (complete whole present)
  · split at final
    next => cases final
    next =>
      cases List.mem_singleton.mp final
      exact last

end Reading

section Returns

variable {head : Char} {text : Text}

theorem OnlyLineReturns.tail (returns : OnlyLineReturns (head :: text)) : OnlyLineReturns text :=
  fun before after split => returns (head :: before) after (by rw [split, List.cons_append])

theorem onlyLineReturns_nil : OnlyLineReturns [] := by
  intro before after split
  cases before with
  | nil => cases split
  | cons _ _ => cases split

theorem onlyLineReturns_cons :
    OnlyLineReturns (head :: text) ↔ (head = '\r' → text.head? = some '\n') ∧ OnlyLineReturns text := by
  constructor
  · intro returns
    refine ⟨fun returned => ?_, returns.tail⟩
    subst returned
    exact returns [] text rfl
  · rintro ⟨first, rest⟩ before after split
    cases before with
    | nil =>
        obtain ⟨rfl, rfl⟩ := List.cons_eq_cons.mp split
        exact first rfl
    | cons _ before => exact rest before after (List.cons_eq_cons.mp split).2

instance decidableOnlyLineReturns : (text : Text) → Decidable (OnlyLineReturns text)
  | [] => .isTrue onlyLineReturns_nil
  | _ :: text =>
      have := decidableOnlyLineReturns text
      decidable_of_iff _ onlyLineReturns_cons.symm

theorem unreturned_of_splitAtLineFeeds (returns : OnlyLineReturns text) :
    (∀ line ∈ (splitAtLineFeeds text).1, '\r' ∉ dropCarriageReturn line) ∧ '\r' ∉ (splitAtLineFeeds text).2 := by
  induction text with
  | nil => simp [splitAtLineFeeds]
  | cons head text ih =>
      obtain ⟨complete, last⟩ := ih returns.tail
      by_cases feed : head = '\n'
      · simp only [splitAtLineFeeds, feed, if_true, List.forall_mem_cons]
        exact ⟨⟨by decide, complete⟩, last⟩
      · by_cases returned : head = '\r'
        · -- The carriage return makes up the first line, for the line feed follows.
          subst returned
          obtain ⟨rest, rfl⟩ : ∃ rest, text = '\n' :: rest := List.head?_eq_some_iff.mp (returns [] text rfl)
          simp only [splitAtLineFeeds, if_true, List.forall_mem_cons] at complete last
          simp only [splitAtLineFeeds, feed, if_true, if_false, List.forall_mem_cons]
          exact ⟨⟨by decide, complete.2⟩, last⟩
        · cases split : (splitAtLineFeeds text).1 with
          | nil =>
              simp only [splitAtLineFeeds, feed, if_false, split, List.not_mem_nil, false_implies, implies_true,
                List.mem_cons, not_or, true_and]
              exact ⟨Ne.symm returned, last⟩
          | cons line lines =>
              rw [split, List.forall_mem_cons] at complete
              simp only [splitAtLineFeeds, feed, if_false, split, List.mem_cons, forall_eq_or_imp,
                dropCarriageReturn_cons returned, not_or]
              exact ⟨⟨⟨Ne.symm returned, complete.1⟩, complete.2⟩, last⟩

theorem isLine_of_mem_lines (returns : OnlyLineReturns text) : ∀ line ∈ Text.lines text, IsLine line := by
  obtain ⟨complete, last⟩ := unreturned_of_splitAtLineFeeds returns
  intro line member
  refine ⟨unbroken_of_mem_lines member, fun ends => ?_⟩
  rcases List.mem_append.mp member with read | final
  · obtain ⟨whole, present, rfl⟩ := List.mem_map.mp read
    exact complete whole present (List.mem_of_getLast? ends)
  · split at final
    next => cases final
    next =>
      cases List.mem_singleton.mp final
      exact last (List.mem_of_getLast? ends)

end Returns

section Pieces

def pieces (text : Text) : List Text := (splitAtLineFeeds text).1 ++ [(splitAtLineFeeds text).2]

theorem pieces_feed (text : Text) : pieces ('\n' :: text) = [] :: pieces text := by
  simp [pieces, splitAtLineFeeds]

theorem pieces_cons {c : Char} (notFeed : c ≠ '\n') {text first : Text} {others : List Text}
    (split : pieces text = first :: others) : pieces (c :: text) = (c :: first) :: others := by
  unfold pieces at split ⊢
  rcases found : splitAtLineFeeds text with ⟨_ | ⟨line, lines⟩, last⟩
  · simp_all [splitAtLineFeeds]
  · simp_all [splitAtLineFeeds]

theorem exists_pieces (text : Text) : ∃ first others, pieces text = first :: others := by
  apply List.exists_cons_of_ne_nil
  simp [pieces]

theorem pieces_append (text : Text) {next first : Text} {others : List Text}
    (split : pieces next = first :: others) :
    pieces (text ++ next) = (splitAtLineFeeds text).1 ++ ((splitAtLineFeeds text).2 ++ first) :: others := by
  induction text with
  | nil => exact split
  | cons c text ih =>
      by_cases feed : c = '\n'
      · subst feed
        rw [List.cons_append, pieces_feed, ih]
        simp [splitAtLineFeeds]
      · rcases found : splitAtLineFeeds text with ⟨_ | ⟨line, lines⟩, last⟩
        · rw [found] at ih
          rw [List.cons_append, pieces_cons feed ih]
          simp [splitAtLineFeeds, found, feed]
        · rw [found] at ih
          rw [List.cons_append, pieces_cons feed ih]
          simp [splitAtLineFeeds, found, feed]

theorem lines_append_feed (text rest : Text) :
    Text.lines (text ++ '\n' :: rest) = (pieces text).map dropCarriageReturn ++ Text.lines rest := by
  have whole := pieces_append text (pieces_feed rest)
  have regrouped : pieces (text ++ '\n' :: rest) =
      (pieces text ++ (splitAtLineFeeds rest).1) ++ [(splitAtLineFeeds rest).2] := by
    rw [whole]
    simp [pieces]
  obtain ⟨complete, last⟩ := List.append_inj' regrouped rfl
  simp only [lines, complete, List.singleton_inj.mp last, List.map_append, List.append_assoc]

theorem dropCarriageReturn_append {line rest : Text} (unreturned : '\r' ∉ line) :
    dropCarriageReturn (line ++ rest) = line ++ dropCarriageReturn rest := by
  induction line with
  | nil => rfl
  | cons c line ih =>
      rw [List.mem_cons, not_or] at unreturned
      rw [List.cons_append, dropCarriageReturn_cons (Ne.symm unreturned.1), ih unreturned.2, List.cons_append]

theorem dropCarriageReturn_append_of_ne_nil {line rest : Text} (more : rest ≠ []) :
    dropCarriageReturn (line ++ rest) = line ++ dropCarriageReturn rest := by
  obtain ⟨before, last, rfl⟩ := (List.eq_nil_or_concat rest).resolve_left more
  rw [List.concat_eq_append, ← List.append_assoc, dropCarriageReturn_eq, dropCarriageReturn_eq]
  simp only [List.getLast?_concat, List.dropLast_concat]
  split
  next => rfl
  next => exact List.append_assoc _ _ _

end Pieces

end Termbase.Text
