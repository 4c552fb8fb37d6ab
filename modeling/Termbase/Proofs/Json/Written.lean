import Termbase.Json.Reader
import Termbase.Json.Writer
import Termbase.Proofs.Json.Grammar

/-! Written JSON as the reader sees it: which tokens a piece of written text stands for, piece by piece. -/

namespace Termbase.Json

theorem hexUnit?_control {value : Nat} (control : value < 32) :
    hexUnit? '0' '0' (hexDigitOf (value / 16)) (hexDigitOf (value % 16)) = some value := by
  have total : value / 16 * 16 + value % 16 = value := by omega
  have zero : hexDigit? '0' = some 0 := by decide
  simp [hexUnit?, zero, hexDigit?_hexDigitOf (show value / 16 < 16 by omega),
    hexDigit?_hexDigitOf (show value % 16 < 16 by omega), total]

theorem isCharacter_quotedChar (c : Char) : IsCharacter c (quotedChar c) := by
  unfold quotedChar
  split
  next => exact .escape (by decide)
  next => exact .escape (by decide)
  next => exact .escape (by decide)
  next => exact .escape (by decide)
  next => exact .escape (by decide)
  next => exact .escape (by decide)
  next => exact .escape (by decide)
  next notQuote notBackslash _ _ _ _ _ =>
    split
    next control =>
      have small : c.toNat < 32 := control
      exact .unit (by omega) (.intro (hexUnit?_control small))
    next printable => exact .plain (Char.not_lt.mp printable) notQuote notBackslash

theorem isQuotable_quoted (text : Text) : IsQuotable text (text.flatMap quotedChar) := by
  induction text with
  | nil => exact .nil
  | cons c text ih => exact .cons (isCharacter_quotedChar c) ih

/-- The tokens of a piece of text, whatever follows the piece. -/
def Spells (written : Text) (found : List Token) : Prop :=
  ∀ count rest, written.length + rest.length ≤ count →
    ∃ left, rest.length ≤ left ∧
      tokensWithin count (written ++ rest) = found ++ tokensWithin left rest

namespace Spells

theorem nil : Spells [] [] := by
  intro count rest enough
  exact ⟨count, by simpa using enough, rfl⟩

theorem append {first second : Text} {before after : List Token} (earlier : Spells first before)
    (later : Spells second after) : Spells (first ++ second) (before ++ after) := by
  intro count rest enough
  obtain ⟨middle, room, firstRead⟩ :=
    earlier count (second ++ rest) (by simp only [List.length_append] at enough ⊢; omega)
  obtain ⟨left, space, secondRead⟩ := later middle rest (by simpa using room)
  exact ⟨left, space, by rw [List.append_assoc, firstRead, secondRead, List.append_assoc]⟩

theorem token {c : Char} {text : Text} {found : Token} (visible : isSpace c = false)
    (next : ∀ rest, nextToken c (text ++ rest) = .ok (found, rest)) : Spells (c :: text) [found] := by
  intro count rest enough
  cases count with
  | zero => simp at enough
  | succ count =>
      refine ⟨count, by simp only [List.length_cons] at enough; omega, ?_⟩
      simp only [List.cons_append, tokensWithin, visible, next, Bool.false_eq_true, if_false,
        List.nil_append]

theorem space {c : Char} (blank : isSpace c = true) : Spells [c] [] := by
  intro count rest enough
  cases count with
  | zero => simp at enough
  | succ count =>
      refine ⟨count, by simp only [List.length_singleton] at enough; omega, ?_⟩
      simp only [List.cons_append, List.nil_append, tokensWithin, blank, if_true]

theorem mark {c : Char} {found : Token} (visible : isSpace c = false)
    (next : ∀ rest, nextToken c rest = .ok (found, rest)) : Spells [c] [found] :=
  token visible next

theorem openBrace : Spells ['\x7b'] [.openBrace] := mark (by decide) fun _ => rfl

theorem closeBrace : Spells ['\x7d'] [.closeBrace] := mark (by decide) fun _ => rfl

theorem comma : Spells [','] [.comma] := mark (by decide) fun _ => rfl

theorem colon : Spells [':'] [.colon] := mark (by decide) fun _ => rfl

theorem string (text : Text) : Spells (writeString text) [.string text] := by
  have shape : writeString text = '"' :: (text.flatMap quotedChar ++ ['"']) := rfl
  rw [shape]
  apply token (by decide)
  intro rest
  simp only [nextToken, List.append_assoc, List.singleton_append, stringBody_quotable (isQuotable_quoted text)]

theorem tokens_eq {written : Text} {found : List Token} (spells : Spells written found) :
    tokens written = found := by
  obtain ⟨left, _, read⟩ := spells written.length [] (by simp)
  rw [List.append_nil] at read
  rw [tokens, read]
  cases left <;> simp [tokensWithin]

end Spells

def separated : List (List Token) → List Token
  | [] => []
  | [part] => part
  | part :: next :: parts => part ++ .comma :: separated (next :: parts)

theorem length_le_separated (parts : List (List Token)) : parts.length ≤ (separated parts).length + 1 := by
  induction parts with
  | nil => simp
  | cons first rest ih =>
      cases rest with
      | nil => simp
      | cons second rest =>
          simp only [List.length_cons, separated, List.length_append] at ih ⊢
          omega

theorem Spells.join {α : Type} {write : α → Text} {found : α → List Token}
    (each : ∀ item, Spells (write item) (found item)) (items : List α) :
    Spells (Text.join [','] (items.map write)) (separated (items.map found)) := by
  induction items with
  | nil => exact nil
  | cons first rest ih =>
      cases rest with
      | nil => exact each first
      | cons second rest =>
          have whole := ((each first).append comma).append ih
          simpa [Text.join, separated] using whole

def memberTokens (key : Text) (value : List Token) : List Token := .string key :: .colon :: value

theorem Spells.indentedMember (key : Text) {value : Text} {found : List Token} (spells : Spells value found) :
    Spells (writeIndentedMember (key, value)) (memberTokens key found) := by
  have lineBreak : Spells ['\n', ' ', ' '] [] :=
    (space (by decide)).append ((space (by decide)).append (space (by decide)))
  have marks : Spells [':', ' '] [.colon] := colon.append (space (by decide))
  have whole := ((lineBreak.append (string key)).append marks).append spells
  simpa [writeIndentedMember, memberTokens] using whole

theorem Spells.indentedObject {α : Type} (key : α → Text) {value : α → Text} {found : α → List Token}
    (each : ∀ item, Spells (value item) (found item)) (items : List α) :
    Spells (writeIndentedObject (items.map fun item => (key item, value item)))
      (.openBrace :: separated (items.map fun item => memberTokens (key item) (found item)) ++
        [.closeBrace]) := by
  unfold writeIndentedObject
  cases items with
  | nil => exact openBrace.append closeBrace
  | cons first rest =>
      have members := join (fun item => (each item).indentedMember (key item)) (first :: rest)
      have ending : Spells ['\n', '\x7d'] [.closeBrace] := (space (by decide)).append closeBrace
      have whole := (openBrace.append members).append ending
      simpa [List.map_map, Function.comp_def] using whole

section Members

variable {σ α : Type} {read : MemberReader σ}

theorem readMembers_comma {state next : σ} {key : Text} {value more : List Token} (count : Nat)
    (taken : read state key (.colon :: value ++ .comma :: more) = .ok (next, .comma :: more)) :
    readMembers read (count + 1) state (memberTokens key value ++ .comma :: more) =
      readMembers read count next more := by
  simp only [List.cons_append] at taken
  simp only [memberTokens, List.cons_append, readMembers, taken]
  rfl

theorem readMembers_closeBrace {state next : σ} {key : Text} {value rest : List Token} (count : Nat)
    (taken : read state key (.colon :: value ++ .closeBrace :: rest) = .ok (next, .closeBrace :: rest)) :
    readMembers read (count + 1) state (memberTokens key value ++ .closeBrace :: rest) =
      .ok (next, rest) := by
  simp only [List.cons_append] at taken
  simp only [memberTokens, List.cons_append, readMembers, taken]
  rfl

variable (step : σ → α → σ) (key : α → Text) {found : α → List Token}

theorem readMembers_separated
    (each : ∀ state item rest, read state (key item) (.colon :: found item ++ rest) =
      .ok (step state item, rest))
    (first : α) (others : List α) {count : Nat} (enough : others.length < count) (state : σ)
    (rest : List Token) :
    readMembers read count state
        (separated ((first :: others).map fun item => memberTokens (key item) (found item)) ++
          .closeBrace :: rest) =
      .ok ((first :: others).foldl step state, rest) := by
  induction others generalizing first count state with
  | nil =>
      obtain ⟨count, rfl⟩ : ∃ left, count = left + 1 := ⟨count - 1, by simp at enough; omega⟩
      exact readMembers_closeBrace count (each state first _)
  | cons second others ih =>
      obtain ⟨count, rfl⟩ : ∃ left, count = left + 1 := ⟨count - 1, by simp at enough; omega⟩
      have later := ih second (by simpa using enough) (step state first)
      simp only [List.map_cons, separated, List.append_assoc, List.cons_append] at later ⊢
      rw [readMembers_comma count (each state first _), later]
      rfl

theorem readObjectBody_separated
    (each : ∀ state item rest, read state (key item) (.colon :: found item ++ rest) =
      .ok (step state item, rest))
    (items : List α) (state : σ) (rest : List Token) :
    readObjectBody read state
        (separated (items.map fun item => memberTokens (key item) (found item)) ++ .closeBrace :: rest) =
      .ok (items.foldl step state, rest) := by
  cases items with
  | nil => rfl
  | cons first others =>
      have long : others.length <
          (separated ((first :: others).map fun item => memberTokens (key item) (found item)) ++
            .closeBrace :: rest).length := by
        have commas := length_le_separated
          ((first :: others).map fun item => memberTokens (key item) (found item))
        simp only [List.length_map, List.length_cons, List.length_append] at commas ⊢
        omega
      have read := readMembers_separated step key each first others long state rest
      rw [← read]
      cases others <;> rfl

end Members

end Termbase.Json
