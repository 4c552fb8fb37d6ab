import Termbase.Proofs.Text.WordCase
import Termbase.TermModule.StringLiteral

/-! How generated source is read, as far as generated items need it: words, string literals with all their
escapes, raw string literals, and a few marks. A line may end in a carriage return and a line feed, which
counts as a line feed; no literal holds another carriage return. -/

namespace Termbase.TermModule

inductive Token
  | word (name : Text)
  | string (value : Text)
  | mark (c : Char)
deriving DecidableEq, Repr

def isSpace (c : Char) : Bool :=
  ('\t' ≤ c && c ≤ '\r') || c == ' ' || c == '\x85' || c == '\u200e' || c == '\u200f' || c == '\u2028' ||
  c == '\u2029'

def isWordCharacter (c : Char) : Bool := isAsciiAlphanumeric c || c == '_'

/-- The characters of identifiers. Which ones beyond ASCII belong to them is left open. -/
structure Alphabet where
  starts : Char → Bool
  continues : Char → Bool
  starts_ascii : ∀ c, c.toNat < 128 → starts c = isAsciiLetter c
  continues_ascii : ∀ c, c.toNat < 128 → continues c = isWordCharacter c
  starts_space : ∀ c, isSpace c = true → starts c = false

def Alphabet.begins (alphabet : Alphabet) (c : Char) : Bool := alphabet.starts c || c == '_'

def Alphabet.IsIdentifier (alphabet : Alphabet) : Text → Prop
  | [] => False
  | c :: rest => alphabet.begins c = true ∧ rest.all alphabet.continues = true ∧ c :: rest ≠ ['_']

def push (c : Char) (read : Text × Text) : Text × Text := (c :: read.1, read.2)

def isSkipped (c : Char) : Bool := c == ' ' || c == '\t' || c == '\n' || c == '\r'

def escapedChar? : Char → Option Char
  | 'n' => some '\n'
  | 'r' => some '\r'
  | 't' => some '\t'
  | '0' => some '\x00'
  | '\\' => some '\\'
  | '\'' => some '\''
  | '"' => some '"'
  | _ => none

def asciiChar? (high low : Char) : Option Char :=
  match hexDigit? high, hexDigit? low with
  | some high, some low => if high < 8 then some (Char.ofNat (high * 16 + low)) else none
  | _, _ => none

/-- Inside of a literal, behind an escaped line break, whose following blanks do not count, or between the
braces of a number. -/
inductive Mode
  | inside
  | skipping
  | number (digits value : Nat)
deriving DecidableEq

def plainBody : Mode → Text → Option (Text × Text)
  | _, [] => none
  | .number digits value, c :: rest =>
      if c = '\x7d' then
        if digits ≠ 0 ∧ value.isValidChar then (plainBody .inside rest).map (push (Char.ofNat value))
        else none
      else if c = '_' ∧ digits ≠ 0 then plainBody (.number digits value) rest
      else match hexDigit? c with
        | some digit =>
            if digits < 6 then plainBody (.number (digits + 1) (value * 16 + digit)) rest else none
        | none => none
  | mode, c :: rest =>
      if mode = .skipping ∧ isSkipped c then plainBody .skipping rest
      else if c = '"' then some ([], rest)
      else if c = '\r' then
        match rest with
        | '\n' :: rest => (plainBody .inside rest).map (push '\n')
        | _ => none
      else if c = '\\' then
        match rest with
        | '\n' :: rest => plainBody .skipping rest
        | '\r' :: '\n' :: rest => plainBody .skipping rest
        | 'u' :: '\x7b' :: rest => plainBody (.number 0 0) rest
        | 'x' :: high :: low :: rest =>
            (asciiChar? high low).bind fun meant => (plainBody .inside rest).map (push meant)
        | escape :: rest =>
            (escapedChar? escape).bind fun meant => (plainBody .inside rest).map (push meant)
        | [] => none
      else (plainBody .inside rest).map (push c)

def rawBody (signs : Nat) : Text → Option (Text × Text)
  | [] => none
  | '\r' :: '\n' :: rest => (rawBody signs rest).map (push '\n')
  | '\r' :: _ => none
  | c :: rest =>
      if c = '"' ∧ List.replicate signs '#' <+: rest then some ([], rest.drop signs)
      else (rawBody signs rest).map (push c)

/-- A literal may not run into a word. -/
def unsuffixed (alphabet : Alphabet) (read : Text × Text) : Option (Token × Text) :=
  if read.2.head?.any alphabet.begins then none else some (.string read.1, read.2)

def opensRaw (rest : Text) : Bool := (rest.dropWhile (· == '#')).head? == some '"'

def rawLiteral? (rest : Text) : Option (Text × Text) :=
  let signs := (rest.takeWhile (· == '#')).length
  if signs ≤ 255 then rawBody signs (rest.drop (signs + 1)) else none

def marks : Text := ['!', '(', ')', '[', ']', ',', ';']

def joints : Text := ['"', '\'', '#']

def Alphabet.nextToken? (alphabet : Alphabet) : Text → Option (Token × Text)
  | [] => none
  | c :: rest =>
      if c = '"' then (plainBody .inside rest).bind (unsuffixed alphabet)
      else if c = 'r' ∧ opensRaw rest then (rawLiteral? rest).bind (unsuffixed alphabet)
      else if marks.contains c then some (.mark c, rest)
      else if alphabet.begins c then
        let name := c :: rest.takeWhile alphabet.continues
        let after := rest.dropWhile alphabet.continues
        if name = ['_'] ∨ after.head?.any joints.contains then none
        else some (.word name, after)
      else none

def Alphabet.tokensWithin (alphabet : Alphabet) : Nat → Text → Option (List Token)
  | _, [] => some []
  | 0, _ => none
  | count + 1, c :: rest =>
      if isSpace c then alphabet.tokensWithin count rest
      else (alphabet.nextToken? (c :: rest)).bind fun read =>
        (alphabet.tokensWithin count read.2).map (read.1 :: ·)

/-- The tokens of a text, unless there is something else in it; each takes at least one character. -/
def Alphabet.tokens? (alphabet : Alphabet) (text : Text) : Option (List Token) :=
  alphabet.tokensWithin text.length text

/-- A text as a literal holds it: its line breaks are line feeds. -/
def settled? : Text → Option Text
  | [] => some []
  | '\r' :: '\n' :: rest => (settled? rest).map ('\n' :: ·)
  | '\r' :: _ => none
  | c :: rest => (settled? rest).map (c :: ·)

theorem plainBody_quote (rest : Text) : plainBody .inside ('"' :: rest) = some ([], rest) := by
  rw [plainBody.eq_def]
  rfl

theorem plainBody_plain {c : Char} (notQuote : c ≠ '"') (notReturn : c ≠ '\r') (notBackslash : c ≠ '\\')
    (rest : Text) : plainBody .inside (c :: rest) = (plainBody .inside rest).map (push c) := by
  rw [plainBody.eq_def]
  simp [notQuote, notReturn, notBackslash]

theorem plainBody_backslash (rest : Text) :
    plainBody .inside ('\\' :: '\\' :: rest) = (plainBody .inside rest).map (push '\\') := by
  rw [plainBody.eq_def]
  rfl

theorem plainBody_lineBreak (rest : Text) :
    plainBody .inside ('\r' :: '\n' :: rest) = (plainBody .inside rest).map (push '\n') := by
  rw [plainBody.eq_def]
  rfl

theorem plainBody_return {rest : Text} (bare : rest.head? ≠ some '\n') :
    plainBody .inside ('\r' :: rest) = none := by
  rw [plainBody.eq_def]
  cases rest with
  | nil => rfl
  | cons c rest =>
      have different : c ≠ '\n' := by simpa using bare
      simp [different]

theorem escapedBackslashes_cons {c : Char} (notBackslash : c ≠ '\\') (text : Text) :
    escapedBackslashes (c :: text) = c :: escapedBackslashes text := by
  simp [escapedBackslashes, notBackslash]

theorem escapedBackslashes_eq {text : Text} (plain : '\\' ∉ text) : escapedBackslashes text = text := by
  induction text with
  | nil => rfl
  | cons c text ih =>
      rw [List.mem_cons, not_or] at plain
      rw [escapedBackslashes_cons (Ne.symm plain.1), ih plain.2]

theorem settled?_eq_some {text : Text} (plain : '\r' ∉ text) : settled? text = some text := by
  fun_induction settled? text with
  | case1 => rfl
  | case2 => simp at plain
  | case3 => simp at plain
  | case4 c rest _ _ ih =>
      rw [ih fun member => plain (List.mem_cons_of_mem _ member)]
      rfl

theorem map_push (c : Char) (value : Option Text) (rest : Text) :
    (value.map (·, rest)).map (push c) = (value.map (c :: ·)).map (·, rest) := by
  cases value <;> rfl

theorem plainBody_escapedBackslashes {text : Text} (plain : '"' ∉ text) (rest : Text) :
    plainBody .inside (escapedBackslashes text ++ '"' :: rest) = (settled? text).map (·, rest) := by
  fun_induction settled? text with
  | case1 => exact plainBody_quote rest
  | case2 text ih =>
      rw [escapedBackslashes_cons (by decide), escapedBackslashes_cons (by decide), List.cons_append,
        List.cons_append, plainBody_lineBreak, ih (by simp_all), map_push]
  | case3 text bare =>
      rw [escapedBackslashes_cons (by decide), List.cons_append, plainBody_return]
      · rfl
      · cases text with
        | nil => simp [escapedBackslashes]
        | cons c text =>
            have different : c ≠ '\n' := fun same => bare text (by rw [same])
            by_cases backslash : c = '\\'
            · simp [escapedBackslashes, backslash]
            · simp [escapedBackslashes_cons backslash, different]
  | case4 c text _ notReturn ih =>
      have later := ih fun member => plain (List.mem_cons_of_mem _ member)
      by_cases backslash : c = '\\'
      · subst backslash
        change plainBody .inside ('\\' :: '\\' :: (escapedBackslashes text ++ '"' :: rest)) = _
        rw [plainBody_backslash, later, map_push]
      · have notQuote : c ≠ '"' := fun same => plain (by simp [same])
        rw [escapedBackslashes_cons backslash, List.cons_append, plainBody_plain notQuote notReturn backslash,
          later, map_push]

theorem rawBody_closing (signs : Nat) (rest : Text) :
    rawBody signs ('"' :: List.replicate signs '#' ++ rest) = some ([], rest) := by
  simp [rawBody]

theorem rawBody_char {signs : Nat} {c : Char} {rest : Text} (notReturn : c ≠ '\r')
    (goesOn : c = '"' → ¬ List.replicate signs '#' <+: rest) :
    rawBody signs (c :: rest) = (rawBody signs rest).map (push c) := by
  rw [rawBody.eq_def]
  split
  all_goals simp_all

theorem not_closed {text : Text} {signs : Nat} (few : (text.takeWhile (· == '#')).length < signs)
    (rest : Text) :
    ¬ List.replicate signs '#' <+: text ++ '"' :: rest := by
  induction text generalizing signs with
  | nil =>
    cases signs with
    | zero => simp at few
    | succ signs => simp [List.replicate_succ]
  | cons c text ih =>
    cases signs with
    | zero => simp at few
    | succ signs =>
      simp [List.replicate_succ, List.takeWhile_cons] at few ⊢
      rintro rfl
      apply ih
      simpa using few

theorem rawBody_guarded {text : Text} {signs : Nat} (guarded : longestGuard text < signs) (rest : Text) :
    rawBody signs (text ++ '"' :: List.replicate signs '#' ++ rest) = (settled? text).map (·, rest) := by
  fun_induction settled? text with
  | case1 => exact rawBody_closing signs rest
  | case2 text ih =>
      have later := ih (by simpa [longestGuard] using guarded)
      change (rawBody signs (text ++ '"' :: List.replicate signs '#' ++ rest)).map (push '\n') = _
      rw [later, map_push]
  | case3 text bare =>
      rw [rawBody.eq_def]
      cases text with
      | nil => rfl
      | cons c text =>
          have different : c ≠ '\n' := fun same => bare text (by rw [same])
          simp [different]
  | case4 c text _ notReturn ih =>
      simp only [longestGuard, Nat.max_lt] at guarded
      have later := ih guarded.2
      rw [List.cons_append, List.cons_append, rawBody_char notReturn, later, map_push]
      rintro rfl
      rw [List.append_assoc, List.cons_append]
      exact not_closed (by simpa using guarded.1) _

def denoted? (text : Text) : Option Text := if guardLength text ≤ 255 then settled? text else none

theorem longestGuard_of_plain {text : Text} (plain : '"' ∉ text) : longestGuard text = 0 := by
  induction text with
  | nil => rfl
  | cons c text ih =>
      rw [List.mem_cons, not_or] at plain
      simp [longestGuard, ih plain.2, Ne.symm plain.1]

def Alphabet.separates (alphabet : Alphabet) (c : Char) : Bool :=
  !alphabet.begins c && !alphabet.continues c && !joints.contains c

/-- The text stands for the token in front of anything that separates, or it cannot be read. -/
def Alphabet.Stands (alphabet : Alphabet) (written : Text) (found : Option Token) : Prop :=
  written.head?.any (!isSpace ·) ∧
    ∀ rest, rest.head?.all alphabet.separates → alphabet.nextToken? (written ++ rest) = found.map (·, rest)

section Stands

variable {alphabet : Alphabet}

theorem begins_of_separates {rest : Text} (separated : rest.head?.all alphabet.separates) :
    rest.head?.any alphabet.begins = false := by
  cases rest with
  | nil => rfl
  | cons c rest =>
      simp only [List.head?_cons, Option.all_some, Alphabet.separates, Bool.and_eq_true,
        Bool.not_eq_true'] at separated
      exact separated.1.1

theorem unsuffixed_eq {value rest : Text} (separated : rest.head?.all alphabet.separates) :
    unsuffixed alphabet (value, rest) = some (.string value, rest) := by
  simp [unsuffixed, begins_of_separates separated]

theorem stands_plain {text : Text} (plain : '"' ∉ text) :
    alphabet.Stands ('"' :: escapedBackslashes text ++ ['"']) ((settled? text).map .string) := by
  refine ⟨rfl, ?_⟩
  intro rest separated
  have read := plainBody_escapedBackslashes plain rest
  simp only [List.cons_append, List.append_assoc, List.nil_append, Alphabet.nextToken?, if_true, read]
  cases settled? text with
  | none => rfl
  | some value => exact unsuffixed_eq separated

theorem stands_raw (text : Text) :
    alphabet.Stands ('r' :: List.replicate (guardLength text) '#' ++
      '"' :: text ++ '"' :: List.replicate (guardLength text) '#') ((denoted? text).map .string) := by
  refine ⟨rfl, ?_⟩
  intro rest separated
  have signs (tail : Text) :
      (List.replicate (guardLength text) '#' ++ '"' :: tail).takeWhile (· == '#') =
        List.replicate (guardLength text) '#' := by
    rw [List.takeWhile_append_of_pos (by simp)]
    simp
  have quote (tail : Text) :
      (List.replicate (guardLength text) '#' ++ '"' :: tail).dropWhile (· == '#') = '"' :: tail := by
    rw [List.dropWhile_append_of_pos (by simp)]
    simp
  have drop (tail : Text) :
      (List.replicate (guardLength text) '#' ++ '"' :: tail).drop (guardLength text + 1) = tail := by
    rw [← List.drop_drop, List.drop_left' (by simp)]
    rfl
  have read := rawBody_guarded (Nat.lt_succ_self (longestGuard text)) rest
  simp only [List.cons_append, List.append_assoc, Alphabet.nextToken?, opensRaw, quote, rawLiteral?, signs,
    drop, List.length_replicate] at read ⊢
  simp only [guardLength] at read ⊢
  by_cases short : longestGuard text + 1 ≤ 255
  · simp only [denoted?, guardLength, short, if_true, read]
    cases settled? text with
    | none => rfl
    | some value => exact unsuffixed_eq separated
  · simp [denoted?, guardLength, short]

theorem stands_stringLiteral (text : Text) :
    alphabet.Stands (stringLiteral text) ((denoted? text).map .string) := by
  unfold stringLiteral
  split
  next => exact stands_raw text
  next noQuote =>
    have plain : '"' ∉ text := by simpa using noQuote
    have denoted : denoted? text = settled? text := by
      simp [denoted?, guardLength, longestGuard_of_plain plain]
    rw [denoted]
    exact stands_plain plain

theorem begins_ascii {c : Char} (ascii : c.toNat < 128) :
    alphabet.begins c = (isAsciiLetter c || c == '_') := by
  rw [Alphabet.begins, alphabet.starts_ascii c ascii]

theorem visible_of_begins {c : Char} (begins : alphabet.begins c = true) : isSpace c = false := by
  cases space : isSpace c with
  | false => rfl
  | true =>
      have underscore : c = '_' := by simpa [Alphabet.begins, alphabet.starts_space c space] using begins
      subst underscore
      cases space

theorem not_mem_marks_of_begins {c : Char} (begins : alphabet.begins c = true) : c ∉ marks := by
  have unstarted : marks.all fun mark => mark.toNat < 128 && !(isAsciiLetter mark || mark == '_') := by decide
  intro isMark
  have known := List.all_eq_true.mp unstarted c isMark
  rw [Bool.and_eq_true, decide_eq_true_eq, Bool.not_eq_true'] at known
  rw [begins_ascii known.1, known.2] at begins
  cases begins

theorem not_mem_joints {c : Char} (apart : (alphabet.continues c || alphabet.separates c) = true) :
    c ∉ joints := by
  have wordless : joints.all fun joint =>
      joint.toNat < 128 && !isWordCharacter joint := by
    decide
  intro member
  have known := List.all_eq_true.mp wordless c member
  rw [Bool.and_eq_true, decide_eq_true_eq, Bool.not_eq_true'] at known
  have refused : joints.contains c = true := by simpa using member
  rw [alphabet.continues_ascii c known.1, known.2, Alphabet.separates, refused] at apart
  simp at apart

variable (alphabet) in
theorem opensRaw_eq_false {text : Text}
    (apart : text.head?.all fun c => alphabet.continues c || alphabet.separates c) :
    opensRaw text = false := by
  cases text with
  | nil => rfl
  | cons c text =>
      have different : c ≠ '"' ∧ c ≠ '\'' ∧ c ≠ '#' := by simpa [joints] using not_mem_joints apart
      simp [opensRaw, different]

theorem stands_word {name : Text} (identifier : alphabet.IsIdentifier name) :
    alphabet.Stands name (some (.word name)) := by
  cases name with
  | nil => exact identifier.elim
  | cons c tail =>
      obtain ⟨begins, continues, proper⟩ := identifier
      have visible := visible_of_begins begins
      refine ⟨by simp [visible], ?_⟩
      intro rest separated
      have notQuote : c ≠ '"' := by
        rintro rfl
        rw [begins_ascii (by decide)] at begins
        cases begins
      have inTail : ∀ other ∈ tail, alphabet.continues other = true := by simpa using continues
      have notRaw : opensRaw (tail ++ rest) = false := by
        apply opensRaw_eq_false alphabet
        cases tail with
        | nil => cases rest <;> simp_all
        | cons second tail => simp [inTail]
      have taken : (tail ++ rest).takeWhile alphabet.continues = tail := by
        rw [List.takeWhile_append_of_pos inTail]
        cases rest <;> simp_all [Alphabet.separates]
      have dropped : (tail ++ rest).dropWhile alphabet.continues = rest := by
        rw [List.dropWhile_append_of_pos inTail]
        cases rest <;> simp_all [Alphabet.separates]
      have apart : rest.head?.any joints.contains = false := by
        cases rest <;> simp_all [Alphabet.separates]
      have notMark := not_mem_marks_of_begins begins
      simp [Alphabet.nextToken?, notQuote, notRaw, notMark, begins, taken, dropped, apart, proper]

theorem toNat_of_isWordCharacter {c : Char} (word : isWordCharacter c = true) : c.toNat < 128 := by
  rcases Bool.or_eq_true_iff.mp word with alphanumeric | underscore
  · exact toNat_of_alphanumeric alphanumeric
  · rw [beq_iff_eq.mp underscore]
    decide

theorem identifier_of_ascii {name : Text} (letter : name.head?.any isAsciiLetter)
    (word : name.all isWordCharacter) : alphabet.IsIdentifier name := by
  cases name with
  | nil => cases letter
  | cons c rest =>
      rw [List.all_cons, Bool.and_eq_true] at word
      have isLetter : isAsciiLetter c = true := letter
      refine ⟨?_, ?_, ?_⟩
      · rw [begins_ascii (toNat_of_isWordCharacter word.1), isLetter]
        rfl
      · rw [List.all_eq_true] at word ⊢
        intro other member
        have known := word.2 other member
        rw [alphabet.continues_ascii other (toNat_of_isWordCharacter known)]
        exact known
      · -- A single underscore is no identifier, and no letter.
        intro same
        cases same
        cases isLetter

theorem separates_of_mem {c : Char} (member : c ∈ '\n' :: marks) : alphabet.separates c = true := by
  have apart : ('\n' :: marks).all fun c =>
      c.toNat < 128 && !(isAsciiLetter c || c == '_') && !isWordCharacter c && !joints.contains c := by
    decide
  have known := List.all_eq_true.mp apart c member
  simp only [Bool.and_eq_true, decide_eq_true_eq, Bool.not_eq_true'] at known
  obtain ⟨⟨⟨ascii, notFirst⟩, notLater⟩, notJoint⟩ := known
  rw [Alphabet.separates, begins_ascii ascii, alphabet.continues_ascii c ascii, notFirst, notLater, notJoint]
  rfl

end Stands

def chain (before after : Option (List Token)) : Option (List Token) :=
  before.bind fun before => after.map (before ++ ·)

@[simp] theorem chain_nil (after : Option (List Token)) : chain (some []) after = after := by
  cases after <;> rfl

@[simp] theorem chain_nil_right (before : Option (List Token)) : chain before (some []) = before := by
  cases before <;> simp [chain]

/-- The tokens of a piece of text, whatever follows it; nothing if it cannot be read. -/
def Alphabet.Spells (alphabet : Alphabet) (written : Text) (found : Option (List Token)) : Prop :=
  ∀ count rest, written.length + rest.length ≤ count →
    ∃ left, rest.length ≤ left ∧ alphabet.tokensWithin count (written ++ rest) =
      found.bind fun found => (alphabet.tokensWithin left rest).map (found ++ ·)

namespace Alphabet.Spells

variable {alphabet : Alphabet} {first second written : Text}

theorem nil : alphabet.Spells [] (some []) := by
  intro count rest enough
  exact ⟨count, by simpa using enough, by simp⟩

theorem append {before after : Option (List Token)} (earlier : alphabet.Spells first before)
    (later : alphabet.Spells second after) : alphabet.Spells (first ++ second) (chain before after) := by
  intro count rest enough
  obtain ⟨middle, room, firstRead⟩ :=
    earlier count (second ++ rest) (by simp only [List.length_append] at enough ⊢; omega)
  obtain ⟨left, space, secondRead⟩ := later middle rest (by simpa using room)
  refine ⟨left, space, ?_⟩
  rw [List.append_assoc, firstRead, secondRead]
  cases before <;> cases after <;> simp [chain, Function.comp_def]

theorem space {c : Char} (blank : isSpace c = true) : alphabet.Spells [c] (some []) := by
  intro count rest enough
  cases count with
  | zero => simp at enough
  | succ count =>
      refine ⟨count, by simp only [List.length_singleton] at enough; omega, ?_⟩
      simp [Alphabet.tokensWithin, blank]

theorem blanks (blank : written.all isSpace = true) : alphabet.Spells written (some []) := by
  induction written with
  | nil => exact nil
  | cons c rest ih =>
      rw [List.all_cons, Bool.and_eq_true] at blank
      exact (space blank.1).append (ih blank.2)

theorem mark {c : Char} (isMark : c ∈ marks) : alphabet.Spells [c] (some [.mark c]) := by
  have known : marks.all fun c => !isSpace c && c != '"' && c != 'r' := by decide
  have apart := List.all_eq_true.mp known c isMark
  simp only [Bool.and_eq_true, Bool.not_eq_true', bne_iff_ne] at apart
  obtain ⟨⟨visible, notQuote⟩, notRaw⟩ := apart
  intro count rest enough
  cases count with
  | zero => simp at enough
  | succ count =>
      refine ⟨count, by simp only [List.length_singleton] at enough; omega, ?_⟩
      simp [Alphabet.tokensWithin, Alphabet.nextToken?, visible, notQuote, notRaw, isMark]

theorem separated {found : Option Token} {c : Char} {after : List Token}
    (stands : alphabet.Stands written found) (separates : alphabet.separates c = true) (ending : alphabet.Spells [c] (some after)) :
    alphabet.Spells (written ++ [c]) (found.map (· :: after)) := by
  obtain ⟨visible, next⟩ := stands
  intro count rest enough
  have read := next (c :: rest) (by simpa using separates)
  cases written with
  | nil => cases visible
  | cons head tail =>
      have shown : isSpace head = false := by simpa using visible
      cases count with
      | zero => simp at enough
      | succ count =>
          obtain ⟨left, room, ended⟩ := ending count rest (by simp at enough ⊢; omega)
          refine ⟨left, room, ?_⟩
          rw [List.append_assoc, List.singleton_append, List.cons_append] at *
          rw [Alphabet.tokensWithin, shown, if_neg (by decide), read]
          cases found with
          | none => rfl
          | some token =>
            simp at ended
            simp [ended, Function.comp_def]

theorem tokens?_eq {found : Option (List Token)} (spells : alphabet.Spells written found) :
    alphabet.tokens? written = found := by
  obtain ⟨left, _, read⟩ := spells written.length [] (by simp)
  rw [List.append_nil] at read
  rw [Alphabet.tokens?, read]
  cases found <;> cases left <;> simp [Alphabet.tokensWithin]

end Alphabet.Spells

end Termbase.TermModule
