import Termbase.Json.Token
import Termbase.Proofs.Text.Hex

/-! The grammar of objects in JSON, as far as a reader of strings is concerned, and that it reads between quotes
what the grammar says. -/

namespace Termbase.Json

def escapes : List (Char × Char) :=
  [('"', '"'), ('\\', '\\'), ('/', '/'), ('b', '\x08'), ('f', '\x0c'), ('n', '\n'), ('r', '\r'), ('t', '\t')]

/-- A backslash, a `u` and four hexadecimal digits, for a unit of UTF-16. -/
inductive NamesUnit (unit : Nat) : Text → Prop
  | intro {a b c d : Char} (digits : hexUnit? a b c d = some unit) : NamesUnit unit ['\\', 'u', a, b, c, d]

/-- The ways to write a character between the quotes of a string: as it is, by the letter of an escape, or by its
units of UTF-16, of which there are two beyond the first plane. -/
inductive IsCharacter (c : Char) : Text → Prop
  | plain (printable : ' ' ≤ c) (notQuote : c ≠ '"') (notBackslash : c ≠ '\\') : IsCharacter c [c]
  | escape {letter : Char} (listed : (letter, c) ∈ escapes) : IsCharacter c ['\\', letter]
  | unit {written : Text} (small : c.toNat < 0x10000) (named : NamesUnit c.toNat written) :
      IsCharacter c written
  | pair {first second : Text} (large : 0x10000 ≤ c.toNat)
      (high : NamesUnit (0xD800 + (c.toNat - 0x10000) / 1024) first)
      (low : NamesUnit (0xDC00 + (c.toNat - 0x10000) % 1024) second) : IsCharacter c (first ++ second)

inductive IsQuotable : Text → Text → Prop
  | nil : IsQuotable [] []
  | cons {c : Char} {content first rest : Text} (here : IsCharacter c first) (later : IsQuotable content rest) :
      IsQuotable (c :: content) (first ++ rest)

def IsPadding (text : Text) : Prop := ∀ c ∈ text, isSpace c = true

inductive IsString (content : Text) : Text → Prop
  | intro {before written after : Text} (leading : IsPadding before) (quoted : IsQuotable content written)
      (trailing : IsPadding after) : IsString content (before ++ '"' :: (written ++ '"' :: after))

/-- A value is a string or something else, which begins with another character than a quote. What it consists of
is left open, since who wants strings goes no further. -/
inductive IsValue : Option Text → Text → Prop
  | string {content text : Text} (string : IsString content text) : IsValue (some content) text
  | other {before rest : Text} {c : Char} (leading : IsPadding before) (visible : isSpace c = false)
      (notQuote : c ≠ '"') : IsValue none (before ++ c :: rest)

inductive IsMember : Text × Option Text → Text → Prop
  | intro {key first second : Text} {value : Option Text} (named : IsString key first)
      (held : IsValue value second) : IsMember (key, value) (first ++ ':' :: second)

inductive AreMembers : List (Text × Option Text) → Text → Prop
  | last {member : Text × Option Text} {text : Text} (here : IsMember member text) : AreMembers [member] text
  | cons {member : Text × Option Text} {members : List (Text × Option Text)} {text rest : Text}
      (here : IsMember member text) (later : AreMembers members rest) :
      AreMembers (member :: members) (text ++ ',' :: rest)

inductive IsObject (members : List (Text × Option Text)) : Text → Prop
  | empty {before inside after : Text} (noMembers : members = []) (leading : IsPadding before)
      (between : IsPadding inside) (trailing : IsPadding after) :
      IsObject members (before ++ '\x7b' :: (inside ++ '\x7d' :: after))
  | filled {before inside after : Text} (leading : IsPadding before) (listed : AreMembers members inside)
      (trailing : IsPadding after) : IsObject members (before ++ '\x7b' :: (inside ++ '\x7d' :: after))

theorem escapedChar?_eq_some_iff {letter c : Char} :
    escapedChar? letter = some c ↔ (letter, c) ∈ escapes := by
  constructor
  · intro found
    unfold escapedChar? at found
    split at found <;> simp_all [escapes, eq_comm]
  · intro listed
    simp only [escapes, List.mem_cons, Prod.mk.injEq, List.not_mem_nil, or_false] at listed
    rcases listed with ⟨rfl, rfl⟩ | ⟨rfl, rfl⟩ | ⟨rfl, rfl⟩ | ⟨rfl, rfl⟩ | ⟨rfl, rfl⟩ | ⟨rfl, rfl⟩ |
      ⟨rfl, rfl⟩ | ⟨rfl, rfl⟩ <;> rfl

theorem stringBody_escaped {c meant : Char} (notUnicode : c ≠ 'u') (escape : escapedChar? c = some meant)
    (rest : Text) : stringBody ('\\' :: c :: rest) = (stringBody rest).push meant := by
  rw [stringBody]
  · simp only [escape]
  all_goals simp [notUnicode]

theorem stringBody_plain {c : Char} (notQuote : c ≠ '"') (notBackslash : c ≠ '\\') (printable : ¬ c < ' ')
    (rest : Text) : stringBody (c :: rest) = (stringBody rest).push c := by
  rw [stringBody]
  · simp only [printable, if_false]
  all_goals simp [notQuote, notBackslash]

theorem stringBody_unit {a b c d : Char} {unit : Nat} (digits : hexUnit? a b c d = some unit)
    (high : isHighSurrogate unit = false) (low : isLowSurrogate unit = false) (rest : Text) :
    stringBody ('\\' :: 'u' :: a :: b :: c :: d :: rest) = (stringBody rest).push (Char.ofNat unit) := by
  rw [stringBody]
  simp only [digits, high, low, Bool.false_eq_true, if_false]

theorem stringBody_character {c : Char} {written : Text} (character : IsCharacter c written) (rest : Text) :
    stringBody (written ++ rest) = (stringBody rest).push c := by
  cases character with
  | plain printable notQuote notBackslash =>
      exact stringBody_plain notQuote notBackslash (Char.not_lt.mpr printable) rest
  | @escape letter listed =>
      have notUnicode : letter ≠ 'u' := by
        rintro rfl
        simp [escapes] at listed
      exact stringBody_escaped notUnicode (escapedChar?_eq_some_iff.mpr listed) rest
  | unit small named =>
      obtain ⟨digits⟩ := named
      have range := Utf8.char_range c
      have high : isHighSurrogate c.toNat = false := by
        simp only [isHighSurrogate, Bool.and_eq_false_iff, decide_eq_false_iff_not]
        omega
      have low : isLowSurrogate c.toNat = false := by
        simp only [isLowSurrogate, Bool.and_eq_false_iff, decide_eq_false_iff_not]
        omega
      have read := stringBody_unit digits high low rest
      rwa [Char.ofNat_toNat] at read
  | pair large highNamed lowNamed =>
      obtain ⟨highDigits⟩ := highNamed
      obtain ⟨lowDigits⟩ := lowNamed
      have range := Utf8.char_range c
      have high : isHighSurrogate (0xD800 + (c.toNat - 0x10000) / 1024) = true := by
        simp only [isHighSurrogate, Bool.and_eq_true, decide_eq_true_eq]
        omega
      have low : isLowSurrogate (0xDC00 + (c.toNat - 0x10000) % 1024) = true := by
        simp only [isLowSurrogate, Bool.and_eq_true, decide_eq_true_eq]
        omega
      have total : 0x10000 + (0xD800 + (c.toNat - 0x10000) / 1024 - 0xD800) * 1024 +
          (0xDC00 + (c.toNat - 0x10000) % 1024 - 0xDC00) = c.toNat := by omega
      simp only [List.cons_append, List.nil_append]
      rw [stringBody]
      simp only [highDigits, high, if_true]
      split
      next unit after found =>
        simp only [leadingLowSurrogate?, lowDigits, low, if_true, Option.some.injEq, Prod.mk.injEq] at found
        obtain ⟨rfl, rfl⟩ := found
        rw [total, Char.ofNat_toNat]
      next found => simp [leadingLowSurrogate?, lowDigits, low] at found

theorem stringBody_quotable {content written : Text} (quotable : IsQuotable content written) (rest : Text) :
    stringBody (written ++ '"' :: rest) = ⟨.ok content, .ok rest⟩ := by
  induction quotable with
  | nil => simp [stringBody]
  | cons here later ih =>
      rw [List.append_assoc, stringBody_character here, ih]
      rfl

theorem StringBody.eq_of_push {body : StringBody} {c : Char} {content rest : Text}
    (pushed : body.push c = ⟨.ok content, .ok rest⟩) :
    ∃ later, content = c :: later ∧ body = ⟨.ok later, .ok rest⟩ := by
  obtain ⟨inner, after⟩ := body
  cases inner with
  | error => simp [push, Except.map] at pushed
  | ok later =>
      simp only [push, Except.map, mk.injEq, Except.ok.injEq] at pushed
      exact ⟨later, pushed.1.symm, by rw [pushed.2]⟩

theorem hexUnit?_lt {a b c d : Char} {unit : Nat} (digits : hexUnit? a b c d = some unit) :
    unit < 0x10000 := by
  simp only [hexUnit?, bind, Option.bind_eq_some_iff, pure, Option.some.injEq] at digits
  obtain ⟨first, firstFound, second, secondFound, third, thirdFound, fourth, fourthFound, rfl⟩ := digits
  have firstBound := (hexDigit?_range firstFound).2.1
  have secondBound := (hexDigit?_range secondFound).2.1
  have thirdBound := (hexDigit?_range thirdFound).2.1
  have fourthBound := (hexDigit?_range fourthFound).2.1
  omega

theorem eq_of_leadingLowSurrogate? {text rest : Text} {unit : Nat}
    (found : leadingLowSurrogate? text = some (unit, rest)) :
    ∃ written, NamesUnit unit written ∧ isLowSurrogate unit = true ∧ text = written ++ rest := by
  unfold leadingLowSurrogate? at found
  split at found
  next a b c d after =>
    split at found
    next unit' digits =>
      split at found
      next low =>
        simp only [Option.some.injEq, Prod.mk.injEq] at found
        obtain ⟨rfl, rfl⟩ := found
        exact ⟨_, .intro digits, low, rfl⟩
      next => cases found
    next => cases found
  next => cases found

theorem isCharacter_of_pair {high low : Nat} {first second : Text} (highNamed : NamesUnit high first)
    (lowNamed : NamesUnit low second) (isHigh : isHighSurrogate high = true)
    (isLow : isLowSurrogate low = true) :
    IsCharacter (Char.ofNat (0x10000 + (high - 0xD800) * 1024 + (low - 0xDC00))) (first ++ second) := by
  simp only [isHighSurrogate, isLowSurrogate, Bool.and_eq_true, decide_eq_true_eq] at isHigh isLow
  have valid : (0x10000 + (high - 0xD800) * 1024 + (low - 0xDC00)).isValidChar := by
    right
    omega
  apply IsCharacter.pair
  · rw [Utf8.toNat_charOfNat valid]
    omega
  · rw [Utf8.toNat_charOfNat valid]
    have same : 0xD800 + (0x10000 + (high - 0xD800) * 1024 + (low - 0xDC00) - 0x10000) / 1024 = high := by
      omega
    rwa [same]
  · rw [Utf8.toNat_charOfNat valid]
    have same : 0xDC00 + (0x10000 + (high - 0xD800) * 1024 + (low - 0xDC00) - 0x10000) % 1024 = low := by
      omega
    rwa [same]

theorem isCharacter_of_unit {unit : Nat} {written : Text} (named : NamesUnit unit written)
    (high : ¬ isHighSurrogate unit = true) (low : ¬ isLowSurrogate unit = true) :
    IsCharacter (Char.ofNat unit) written := by
  have bound : unit < 0x10000 := by
    obtain ⟨digits⟩ := named
    exact hexUnit?_lt digits
  simp only [isHighSurrogate, isLowSurrogate, Bool.and_eq_true, decide_eq_true_eq] at high low
  have valid : unit.isValidChar := by
    by_cases below : unit < 0xD800
    · left
      omega
    · right
      omega
  apply IsCharacter.unit
  · rwa [Utf8.toNat_charOfNat valid]
  · rwa [Utf8.toNat_charOfNat valid]

theorem exists_quotable_cons {c : Char} {first after content rest : Text} (here : IsCharacter c first)
    (quoted : ∀ {content : Text}, stringBody after = ⟨.ok content, .ok rest⟩ →
      ∃ written, IsQuotable content written ∧ after = written ++ '"' :: rest)
    (pushed : (stringBody after).push c = ⟨.ok content, .ok rest⟩) :
    ∃ written, IsQuotable content written ∧ first ++ after = written ++ '"' :: rest := by
  obtain ⟨later, rfl, read⟩ := StringBody.eq_of_push pushed
  obtain ⟨written, quotable, rfl⟩ := quoted read
  exact ⟨first ++ written, .cons here quotable, by rw [List.append_assoc]⟩

theorem exists_quotable_of_stringBody {text content rest : Text}
    (read : stringBody text = ⟨.ok content, .ok rest⟩) :
    ∃ written, IsQuotable content written ∧ text = written ++ '"' :: rest := by
  fun_induction stringBody text generalizing content with
  -- Where the text ends too early, a character is not allowed or a surrogate is alone, nothing is read.
  | case1 | case3 | case5 | case6 | case8 | case9 | case11 | case12 => cases read
  | case2 after =>
      simp only [StringBody.mk.injEq, Except.ok.injEq] at read
      obtain ⟨rfl, rfl⟩ := read
      exact ⟨[], .nil, rfl⟩
  | case4 a b c d after unit digits high low later found ih =>
      obtain ⟨second, named, isLow, rfl⟩ := eq_of_leadingLowSurrogate? found
      have character := isCharacter_of_pair (.intro digits) named high isLow
      simpa using exists_quotable_cons character ih read
  | case7 a b c d after unit digits high low ih =>
      exact exists_quotable_cons (isCharacter_of_unit (.intro digits) high low) ih read
  | case10 letter after _ _ meant found ih =>
      exact exists_quotable_cons (.escape (escapedChar?_eq_some_iff.mp found)) ih read
  | case13 c after notQuote _ _ alone escaping printable ih =>
      -- What may follow a backslash has its own cases.
      have notBackslash : c ≠ '\\' := by
        intro same
        cases after with
        | nil => exact alone same rfl
        | cons letter after => exact escaping letter after same rfl
      exact exists_quotable_cons (.plain (Char.not_lt.mp printable) notQuote notBackslash) ih read

end Termbase.Json
