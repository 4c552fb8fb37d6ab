import Mathlib.Order.Bounds.Defs
import Termbase.Proofs.TermModule.Token

/-! String literals by themselves: each is read as its text, up to its end and no further, and a raw one has as few
signs as its text allows. An escaped backslash is the only escape here, and every other character denotes itself, a
carriage return as well; a whole source is read by stricter rules. -/

namespace Termbase.TermModule

/-- How a raw literal ends. Its text may have quotes with fewer signs behind them. -/
def closing (signs : Nat) : Text := '"' :: List.replicate signs '#'

def rawLiteral (signs : Nat) (text : Text) : Text :=
  'r' :: List.replicate signs '#' ++ '"' :: text ++ closing signs

/-- What a literal denotes and what follows it, from behind the quote that opens it; here for a plain one. -/
def readPlain : Text → Option (Text × Text)
  | [] => none
  | '"' :: rest => some ([], rest)
  | '\\' :: '\\' :: rest => (readPlain rest).map (push '\\')
  | '\\' :: _ => none
  | c :: rest => (readPlain rest).map (push c)

def readRaw (signs : Nat) : Text → Option (Text × Text)
  | [] => none
  | c :: rest =>
      match Text.stripPrefix? (closing signs) (c :: rest) with
      | some after => some ([], after)
      | none => (readRaw signs rest).map (push c)

def readLiteral : Text → Option (Text × Text)
  | '"' :: rest => readPlain rest
  | 'r' :: rest =>
      match rest.dropWhile (· == '#') with
      | '"' :: body => readRaw (rest.takeWhile (· == '#')).length body
      | _ => none
  | _ => none

def Alphabet.literal? (alphabet : Alphabet) (text : Text) : Option (Token × Text) :=
  (readLiteral text).bind (unsuffixed alphabet)

/-- The search for a number of signs, which takes one more as long as they close the literal inside of its text;
from which number it starts and with which it ends. -/
inductive GuardSearch (text : Text) : Nat → Nat → Prop
  | ends {signs : Nat} : ¬ closing signs <:+: text → GuardSearch text signs signs
  | goesOn {signs last : Nat} : closing signs <:+: text → GuardSearch text (signs + 1) last →
      GuardSearch text signs last

section Reading

variable {text : Text} {signs : Nat}

theorem readPlain_char {c : Char} (notQuote : c ≠ '"') (notBackslash : c ≠ '\\') (rest : Text) :
    readPlain (c :: rest) = (readPlain rest).map (push c) := by
  rw [readPlain.eq_def]
  split
  all_goals simp_all

theorem readPlain_escapedBackslashes (plain : '"' ∉ text) (rest : Text) :
    readPlain (escapedBackslashes text ++ '"' :: rest) = some (text, rest) := by
  induction text with
  | nil => rfl
  | cons c text ih =>
      rw [List.mem_cons, not_or] at plain
      have later := ih plain.2
      by_cases backslash : c = '\\'
      · subst backslash
        change (readPlain (escapedBackslashes text ++ '"' :: rest)).map (push '\\') = _
        rw [later]
        rfl
      · rw [escapedBackslashes_cons backslash, List.cons_append,
          readPlain_char (Ne.symm plain.1) backslash, later]
        rfl

theorem readRaw_closing (signs : Nat) (rest : Text) : readRaw signs (closing signs ++ rest) = some ([], rest) := by
  have closed : Text.stripPrefix? (closing signs) (closing signs ++ rest) = some rest :=
    Text.stripPrefix?_eq_some_iff.mpr rfl
  rw [closing, List.cons_append] at closed ⊢
  rw [readRaw, closing, closed]

theorem readRaw_char {c : Char} {rest : Text} (goesOn : ¬ closing signs <+: c :: rest) :
    readRaw signs (c :: rest) = (readRaw signs rest).map (push c) := by
  cases closed : Text.stripPrefix? (closing signs) (c :: rest) with
  | some after => exact absurd ⟨after, (Text.stripPrefix?_eq_some_iff.mp closed).symm⟩ goesOn
  | none => rw [readRaw, closed]

theorem readRaw_guarded (guarded : longestGuard text < signs) (rest : Text) :
    readRaw signs (text ++ (closing signs ++ rest)) = some (text, rest) := by
  induction text with
  | nil => exact readRaw_closing signs rest
  | cons c text ih =>
      simp only [longestGuard, Nat.max_lt] at guarded
      have goesOn : ¬ closing signs <+: c :: (text ++ (closing signs ++ rest)) := by
        rw [closing, List.cons_prefix_cons]
        rintro ⟨rfl, closed⟩
        exact not_closed (by simpa using guarded.1) _ closed
      rw [List.cons_append, readRaw_char goesOn, ih guarded.2]
      rfl

theorem readLiteral_rawLiteral (guarded : longestGuard text < signs) (rest : Text) :
    readLiteral (rawLiteral signs text ++ rest) = some (text, rest) := by
  have split : rawLiteral signs text ++ rest =
      'r' :: (List.replicate signs '#' ++ '"' :: (text ++ (closing signs ++ rest))) := by
    simp [rawLiteral]
  have body : (List.replicate signs '#' ++ '"' :: (text ++ (closing signs ++ rest))).dropWhile (· == '#') =
      '"' :: (text ++ (closing signs ++ rest)) := by
    rw [List.dropWhile_append_of_pos (by simp)]
    rfl
  have signsTaken : (List.replicate signs '#' ++ '"' :: (text ++ (closing signs ++ rest))).takeWhile (· == '#') =
      List.replicate signs '#' := by
    rw [List.takeWhile_append_of_pos (by simp)]
    simp
  rw [split]
  simp only [readLiteral, body, signsTaken, List.length_replicate]
  exact readRaw_guarded guarded rest

theorem stringLiteral_of_quote (quote : '"' ∈ text) : stringLiteral text = rawLiteral (guardLength text) text := by
  simp [stringLiteral, quote, rawLiteral, closing]

theorem stringLiteral_of_plain (plain : '"' ∉ text) : stringLiteral text = '"' :: escapedBackslashes text ++ ['"'] := by
  simp [stringLiteral, plain]

theorem readLiteral_stringLiteral (text rest : Text) : readLiteral (stringLiteral text ++ rest) = some (text, rest) := by
  by_cases quote : '"' ∈ text
  · rw [stringLiteral_of_quote quote]
    exact readLiteral_rawLiteral (Nat.lt_succ_self _) rest
  · rw [stringLiteral_of_plain quote, List.append_assoc, List.cons_append]
    exact readPlain_escapedBackslashes quote rest

end Reading

section Guard

variable {text : Text} {signs last : Nat}

theorem replicate_prefix_iff : List.replicate signs '#' <+: text ↔ signs ≤ (text.takeWhile (· == '#')).length := by
  induction signs generalizing text with
  | zero => simp
  | succ signs ih =>
      cases text with
      | nil => simp [List.replicate_succ]
      | cons c text =>
          by_cases sign : c = '#'
          · simp [List.replicate_succ, sign, ih]
          · simp [List.replicate_succ, sign, Ne.symm sign]

theorem closing_infix_iff : closing (signs + 1) <:+: text ↔ signs < longestGuard text := by
  induction text with
  | nil => simp [closing, longestGuard]
  | cons c text ih =>
      have here : closing (signs + 1) <+: c :: text ↔
          signs < if c = '"' then (text.takeWhile (· == '#')).length else 0 := by
        rw [closing, List.cons_prefix_cons, replicate_prefix_iff]
        split
        next quote =>
          rw [and_iff_right quote.symm]
          exact Nat.succ_le_iff
        next other => simp [Ne.symm other]
      rw [List.infix_cons_iff, here, ih, longestGuard]
      omega

theorem isLeast_guardLength (text : Text) :
    IsLeast {signs | 1 ≤ signs ∧ ¬ closing signs <:+: text} (guardLength text) := by
  constructor
  · refine ⟨Nat.le_add_left 1 _, ?_⟩
    rw [guardLength, closing_infix_iff]
    exact Nat.lt_irrefl _
  · rintro signs ⟨positive, free⟩
    obtain ⟨before, rfl⟩ := Nat.exists_eq_add_of_le' positive
    rw [closing_infix_iff, Nat.not_lt] at free
    exact Nat.succ_le_succ free

theorem eq_of_guardSearch (search : GuardSearch text signs last) (positive : 1 ≤ signs)
    (bounded : signs ≤ guardLength text) : last = guardLength text := by
  induction search with
  | ends free => exact Nat.le_antisymm bounded ((isLeast_guardLength text).2 ⟨positive, free⟩)
  | @goesOn signs last closes _ ih =>
      obtain ⟨before, rfl⟩ := Nat.exists_eq_add_of_le' positive
      exact ih (Nat.le_add_left 1 _) (Nat.succ_le_succ (closing_infix_iff.mp closes))

theorem guardSearch_guardLength (bounded : signs ≤ longestGuard text) :
    GuardSearch text (signs + 1) (guardLength text) := by
  obtain ⟨distance, total⟩ := Nat.exists_eq_add_of_le bounded
  induction distance generalizing signs with
  | zero =>
      have reached : guardLength text = signs + 1 := by rw [guardLength, total, Nat.add_zero]
      rw [reached]
      refine .ends fun closes => ?_
      rw [closing_infix_iff] at closes
      omega
  | succ distance ih => exact .goesOn (closing_infix_iff.mpr (by omega)) (ih (by omega) (by omega))

theorem guardSearch_iff : GuardSearch text 1 signs ↔ signs = guardLength text := by
  constructor
  · intro search
    exact eq_of_guardSearch search (Nat.le_refl 1) (Nat.le_add_left 1 _)
  · rintro rfl
    exact guardSearch_guardLength (Nat.zero_le _)

theorem stringLiteral_eq_rawLiteral_iff :
    stringLiteral text = rawLiteral signs text ↔ '"' ∈ text ∧ signs = guardLength text := by
  by_cases quote : '"' ∈ text
  · rw [stringLiteral_of_quote quote, and_iff_right quote]
    constructor
    · intro same
      have lengths := congrArg List.length same
      simp only [rawLiteral, closing, List.length_append, List.length_cons, List.length_replicate] at lengths
      omega
    · rintro rfl
      rfl
  · simp [stringLiteral_of_plain quote, quote, rawLiteral]

end Guard

/-- A literal is read as its text and ends where it was written to end, unless a word follows. It is raw exactly
for a text with quotes, with the number of signs that the search for one ends with: the least from one on that
does not close the literal inside of its text. -/
theorem stringLiteral_is_exact (alphabet : Alphabet) (text : Text) :
    (∀ rest, alphabet.literal? (stringLiteral text ++ rest) = some (.string text, rest) ↔
        rest.head?.any alphabet.begins = false) ∧
      ∃ least, IsLeast {signs | 1 ≤ signs ∧ ¬ closing signs <:+: text} least ∧
        (∀ signs, GuardSearch text 1 signs ↔ signs = least) ∧
        ∀ signs, stringLiteral text = rawLiteral signs text ↔ '"' ∈ text ∧ signs = least := by
  refine ⟨?_, guardLength text, isLeast_guardLength text, fun signs => guardSearch_iff,
    fun signs => stringLiteral_eq_rawLiteral_iff⟩
  intro rest
  rw [Alphabet.literal?, readLiteral_stringLiteral, Option.bind_some, unsuffixed]
  cases rest.head?.any alphabet.begins with
  | true => simp
  | false => simp

/-- One sign stands behind the quote inside, so there are two; the quote at the end of the text asks for none. -/
example : stringLiteral "a\\\"#\"".toList = "r##\"a\\\"#\"\"##".toList := by decide

end Termbase.TermModule
