import Termbase.Text

/-! The order of texts, by their characters from the left, is a linear one. -/

namespace Termbase.Text

theorem le_total (left right : Text) : (le left right || le right left) = true := by
  induction left generalizing right with
  | nil => simp [le]
  | cons a left ih =>
      cases right with
      | nil => simp [le]
      | cons b right =>
          by_cases same : a = b
          · subst same
            simpa [le] using ih right
          · have differs : a.toNat ≠ b.toNat := fun equal => same (Char.toNat_inj.mp equal)
            simp only [le, same, Ne.symm same, if_false, Bool.or_eq_true, decide_eq_true_eq]
            omega

theorem le_antisymm {left right : Text} (forth : le left right = true) (back : le right left = true) :
    left = right := by
  induction left generalizing right with
  | nil =>
      cases right with
      | nil => rfl
      | cons b right => simp [le] at back
  | cons a left ih =>
      cases right with
      | nil => simp [le] at forth
      | cons b right =>
          by_cases same : a = b
          · subst same
            simp only [le, if_true] at forth back
            rw [ih forth back]
          · simp only [le, same, Ne.symm same, if_false, decide_eq_true_eq] at forth back
            omega

theorem le_trans {left middle right : Text} (first : le left middle = true)
    (second : le middle right = true) : le left right = true := by
  induction left generalizing middle right with
  | nil => simp [le]
  | cons a left ih =>
      cases middle with
      | nil => simp [le] at first
      | cons b middle =>
          cases right with
          | nil => simp [le] at second
          | cons c right =>
              by_cases ab : a = b
              · subst ab
                by_cases ac : a = c
                · subst ac
                  simp only [le, if_true] at first second ⊢
                  exact ih first second
                · simpa [le, ac] using second
              · simp only [le, ab, if_false, decide_eq_true_eq] at first
                by_cases bc : b = c
                · subst bc
                  simpa [le, ab] using first
                · simp only [le, bc, if_false, decide_eq_true_eq] at second
                  have ac : a ≠ c := by
                    rintro rfl
                    omega
                  simp only [le, ac, if_false, decide_eq_true_eq]
                  omega

end Termbase.Text
