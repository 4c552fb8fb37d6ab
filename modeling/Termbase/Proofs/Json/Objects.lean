import Termbase.Proofs.Json.Written

/-! The texts of an object of strings are the texts with its tokens. -/

namespace Termbase.Json

/-- Reading the text takes these tokens, with a count that is enough for all of them. -/
def HasTokens (text : Text) (found : List Token) : Prop :=
  ∃ count, text.length ≤ count ∧ tokensWithin count text = found

theorem hasTokens_tokens (text : Text) : HasTokens text (tokens text) := ⟨text.length, Nat.le_refl _, rfl⟩

theorem Spells.exists_hasTokens {written rest : Text} {found all : List Token} (spells : Spells written found)
    (read : HasTokens (written ++ rest) all) : ∃ left, HasTokens rest left ∧ all = found ++ left := by
  obtain ⟨count, enough, rfl⟩ := read
  obtain ⟨left, room, split⟩ := spells count rest (by simpa using enough)
  exact ⟨_, ⟨left, room, rfl⟩, split⟩

section Grammar

variable {text : Text}

theorem spells_padding (padding : IsPadding text) : Spells text [] := by
  induction text with
  | nil => exact Spells.nil
  | cons c text ih =>
      unfold IsPadding at padding
      rw [List.forall_mem_cons] at padding
      exact (Spells.space padding.1).append (ih padding.2)

theorem spells_string {content : Text} (string : IsString content text) : Spells text [.string content] := by
  obtain ⟨leading, quoted, trailing⟩ := string
  next before written after =>
    have quotation : Spells ('"' :: (written ++ ['"'])) [.string content] := by
      apply Spells.token (by decide)
      intro rest
      simp only [nextToken, List.append_assoc, List.singleton_append, stringBody_quotable quoted]
    have whole := ((spells_padding leading).append quotation).append (spells_padding trailing)
    simpa using whole

def stringMember (member : Text × Text) : List Token := memberTokens member.1 [.string member.2]

def asString (member : Text × Text) : Text × Option Text := (member.1, some member.2)

theorem spells_member {member : Text × Text} (written : IsMember (asString member) text) :
    Spells text (stringMember member) := by
  obtain ⟨named, ⟨string⟩⟩ := written
  exact (spells_string named).append (Spells.colon.append (spells_string string))

theorem AreMembers.ne_nil {members : List (Text × Option Text)} (listed : AreMembers members text) :
    members ≠ [] := by
  cases listed <;> simp

theorem separated_cons {part : List Token} {parts : List (List Token)} (more : parts ≠ []) :
    separated (part :: parts) = part ++ .comma :: separated parts := by
  cases parts with
  | nil => exact absurd rfl more
  | cons next parts => rfl

theorem spells_members {members : List (Text × Text)} (listed : AreMembers (members.map asString) text) :
    Spells text (separated (members.map stringMember)) := by
  generalize written : members.map asString = pairs at listed
  induction listed generalizing members with
  | last here =>
      obtain ⟨member, rfl, rfl⟩ := List.map_eq_singleton_iff.mp written
      exact spells_member here
  | cons here later ih =>
      obtain ⟨member, others, rfl, rfl, rfl⟩ := List.map_eq_cons_iff.mp written
      have more : others.map stringMember ≠ [] := by simpa using later.ne_nil
      rw [List.map_cons, separated_cons more]
      exact (spells_member here).append (Spells.comma.append (ih rfl))

def objectTokens (members : List (Text × Text)) : List Token :=
  .openBrace :: (separated (members.map stringMember) ++ [.closeBrace])

theorem spells_object {members : List (Text × Text)} (object : IsObject (members.map asString) text) :
    Spells text (objectTokens members) := by
  cases object with
  | @empty before inside after noMembers leading between trailing =>
      obtain rfl : members = [] := by simpa using noMembers
      have opened := (spells_padding leading).append (Spells.openBrace.append (spells_padding between))
      have whole := opened.append (Spells.closeBrace.append (spells_padding trailing))
      simpa [objectTokens, separated] using whole
  | @filled before inside after leading listed trailing =>
      have opened := (spells_padding leading).append (Spells.openBrace.append (spells_members listed))
      have whole := opened.append (Spells.closeBrace.append (spells_padding trailing))
      simpa [objectTokens] using whole

end Grammar

section Tokens

variable {text : Text} {token : Token} {found : List Token}

theorem HasTokens.behind_padding (read : HasTokens text (token :: found)) :
    ∃ before c rest, IsPadding before ∧ text = before ++ c :: rest ∧
      (nextToken c rest = .error token ∨
        ∃ count after, nextToken c rest = .ok (token, after) ∧ rest.length ≤ count ∧
          tokensWithin count after = found) := by
  obtain ⟨count, enough, read⟩ := read
  -- A blank takes one from the count and leaves the same tokens; anything else is the first token.
  induction count generalizing text with
  | zero => cases read
  | succ count ih =>
      cases text with
      | nil => cases read
      | cons c text =>
          have room : text.length ≤ count := by simpa using enough
          cases blank : isSpace c with
          | true =>
              simp only [tokensWithin, blank, if_true] at read
              obtain ⟨before, next, rest, padding, rfl, step⟩ := ih room read
              refine ⟨c :: before, next, rest, ?_, rfl, step⟩
              exact List.forall_mem_cons.mpr ⟨blank, padding⟩
          | false =>
              simp only [tokensWithin, blank, Bool.false_eq_true, if_false] at read
              refine ⟨[], c, text, by simp [IsPadding], rfl, ?_⟩
              cases step : nextToken c text with
              | error last =>
                  rw [step] at read
                  cases read
                  exact Or.inl rfl
              | ok taken =>
                  rw [step] at read
                  cases read
                  exact Or.inr ⟨count, taken.2, rfl, room, rfl⟩

theorem isPadding_of_hasTokens_nil (read : HasTokens text []) : IsPadding text := by
  obtain ⟨count, enough, read⟩ := read
  induction count generalizing text with
  | zero =>
      have empty : text = [] := by simpa using enough
      simp [IsPadding, empty]
  | succ count ih =>
      cases text with
      | nil => simp [IsPadding]
      | cons c text =>
          cases blank : isSpace c with
          | true =>
              simp only [tokensWithin, blank, if_true] at read
              exact List.forall_mem_cons.mpr ⟨blank, ih (by simpa using enough) read⟩
          | false =>
              simp only [tokensWithin, blank, Bool.false_eq_true, if_false] at read
              split at read <;> cases read

def markOf? : Token → Option Char
  | .openBrace => some '\x7b'
  | .closeBrace => some '\x7d'
  | .openBracket => some '['
  | .closeBracket => some ']'
  | .comma => some ','
  | .colon => some ':'
  | _ => none

def IsOther (token : Token) : Prop := markOf? token = none ∧ ∀ content, token ≠ .string content

inductive Takes (c : Char) (rest : Text) : Except Token (Token × Text) → Prop
  | mark {token : Token} (marked : markOf? token = some c) : Takes c rest (.ok (token, rest))
  | string {content after : Text} (quote : c = '"') (body : stringBody rest = ⟨.ok content, .ok after⟩) :
      Takes c rest (.ok (.string content, after))
  | other {token : Token} {after : Text} (other : IsOther token) : Takes c rest (.ok (token, after))
  | broken {token : Token} (other : IsOther token) : Takes c rest (.error token)

theorem Takes.word {c : Char} {rest : Text} {token : Token} (other : IsOther token) (ending : String) :
    Takes c rest (match afterWord ending.toList rest with
      | .ok after => .ok (token, after)
      | .error error => .error (.broken error)) := by
  split
  next => exact .other other
  next => exact .broken ⟨rfl, by simp⟩

theorem Takes.number {c : Char} {rest : Text} (sign text : Text) :
    Takes c rest (match numeral text with
      | .ok (value, after) =>
          .ok (.number (sign ++ text.take (text.length - after.length)) value.isRepresentable, after)
      | .error error => .error (.broken error)) := by
  split
  next => exact .other ⟨rfl, by simp⟩
  next => exact .broken ⟨rfl, by simp⟩

theorem takes_nextToken (c : Char) (rest : Text) : Takes c rest (nextToken c rest) := by
  unfold nextToken
  split
  next => exact .mark rfl
  next => exact .mark rfl
  next => exact .mark rfl
  next => exact .mark rfl
  next => exact .mark rfl
  next => exact .mark rfl
  next => exact .word ⟨rfl, by simp⟩ "ull"
  next => exact .word ⟨rfl, by simp⟩ "rue"
  next => exact .word ⟨rfl, by simp⟩ "alse"
  next => exact .number ['-'] rest
  next =>
    split
    next readRest readContent => exact .string rfl (by rw [← readRest, ← readContent])
    next => exact .other ⟨rfl, by simp⟩
    next => exact .broken ⟨rfl, by simp⟩
    next => exact .broken ⟨rfl, by simp⟩
  next =>
    split
    next => exact .number [] (c :: rest)
    next => exact .broken ⟨rfl, by simp⟩

theorem HasTokens.uncons (read : HasTokens text (token :: found)) :
    ∃ before c rest, IsPadding before ∧ text = before ++ c :: rest ∧
      (markOf? token = some c ∧ HasTokens rest found ∨
        (c = '"' ∧ ∃ written content after, IsQuotable content written ∧ token = .string content ∧
          rest = written ++ '"' :: after ∧ HasTokens after found) ∨
        IsOther token) := by
  obtain ⟨before, c, rest, padding, shape, step⟩ := read.behind_padding
  refine ⟨before, c, rest, padding, shape, ?_⟩
  have takes := takes_nextToken c rest
  rcases step with broken | ⟨count, after, step, room, later⟩
  · rw [broken] at takes
    cases takes with
    | broken other => exact Or.inr (Or.inr other)
  · rw [step] at takes
    cases takes with
    | mark marked => exact Or.inl ⟨marked, count, room, later⟩
    | string quote body =>
        obtain ⟨written, quotable, rfl⟩ := exists_quotable_of_stringBody body
        -- The count was enough for the whole string, so it is enough for what follows it.
        have enough : after.length ≤ count := by
          simp only [List.length_append, List.length_cons] at room
          omega
        exact Or.inr (Or.inl ⟨quote, written, _, after, quotable, rfl, rfl, count, enough, later⟩)
    | other other => exact Or.inr (Or.inr other)

theorem HasTokens.mark {mark : Char} (marked : markOf? token = some mark)
    (read : HasTokens text (token :: found)) :
    ∃ before rest, IsPadding before ∧ text = before ++ mark :: rest ∧ HasTokens rest found := by
  obtain ⟨before, c, rest, padding, shape, ⟨same, later⟩ | ⟨_, _, _, _, _, rfl, _⟩ | ⟨noMark, _⟩⟩ := read.uncons
  · rw [marked, Option.some.injEq] at same
    exact ⟨before, rest, padding, same ▸ shape, later⟩
  · cases marked
  · rw [noMark] at marked
    cases marked

theorem HasTokens.string {content : Text} (read : HasTokens text (.string content :: found)) :
    ∃ before written rest, IsPadding before ∧ IsQuotable content written ∧
      text = before ++ '"' :: (written ++ '"' :: rest) ∧ HasTokens rest found := by
  obtain ⟨before, c, rest, padding, shape, ⟨same, _⟩ | ⟨rfl, written, _, after, quotable, same, rfl, later⟩ |
    ⟨_, noString⟩⟩ := read.uncons
  · cases same
  · cases same
    exact ⟨before, written, after, padding, quotable, shape, later⟩
  · exact absurd rfl (noString content)

theorem HasTokens.string_mark {content : Text} {mark : Char} (marked : markOf? token = some mark)
    (read : HasTokens text (.string content :: token :: found)) :
    ∃ written rest, IsString content written ∧ text = written ++ mark :: rest ∧ HasTokens rest found := by
  obtain ⟨before, written, behind, leading, quotable, rfl, later⟩ := read.string
  obtain ⟨after, rest, trailing, rfl, last⟩ := later.mark marked
  exact ⟨_, rest, .intro leading quotable trailing, by simp, last⟩

theorem HasTokens.member_mark {member : Text × Text} {mark : Char} (marked : markOf? token = some mark)
    (read : HasTokens text (stringMember member ++ token :: found)) :
    ∃ written rest, IsMember (asString member) written ∧ text = written ++ mark :: rest ∧
      HasTokens rest found := by
  have colon : markOf? .colon = some ':' := rfl
  obtain ⟨key, behind, isKey, rfl, later⟩ := HasTokens.string_mark colon read
  obtain ⟨value, rest, isValue, rfl, last⟩ := later.string_mark marked
  exact ⟨_, rest, .intro isKey (.string isValue), by simp, last⟩

theorem HasTokens.members {first : Text × Text} {others : List (Text × Text)}
    (read : HasTokens text (separated ((first :: others).map stringMember) ++ .closeBrace :: found)) :
    ∃ inside rest, AreMembers ((first :: others).map asString) inside ∧ text = inside ++ '\x7d' :: rest ∧
      HasTokens rest found := by
  induction others generalizing first text with
  | nil =>
      have closeBrace : markOf? .closeBrace = some '\x7d' := rfl
      obtain ⟨written, rest, isMember, rfl, last⟩ := HasTokens.member_mark closeBrace read
      exact ⟨written, rest, .last isMember, rfl, last⟩
  | cons second others ih =>
      have comma : markOf? .comma = some ',' := rfl
      rw [List.map_cons, separated_cons (by simp), List.append_assoc] at read
      obtain ⟨written, behind, isMember, rfl, later⟩ := HasTokens.member_mark comma read
      obtain ⟨inside, rest, listed, rfl, last⟩ := ih later
      exact ⟨written ++ ',' :: inside, rest, .cons isMember listed, by simp, last⟩

theorem isObject_of_tokens {members : List (Text × Text)} (read : tokens text = objectTokens members) :
    IsObject (members.map asString) text := by
  have opening : HasTokens text (.openBrace :: (separated (members.map stringMember) ++ [.closeBrace])) := by
    have all := hasTokens_tokens text
    rwa [read] at all
  have openBrace : markOf? .openBrace = some '\x7b' := rfl
  have closeBrace : markOf? .closeBrace = some '\x7d' := rfl
  obtain ⟨before, rest, leading, rfl, body⟩ := opening.mark openBrace
  cases members with
  | nil =>
      obtain ⟨inside, after, between, rfl, left⟩ := HasTokens.mark closeBrace body
      exact .empty rfl leading between (isPadding_of_hasTokens_nil left)
  | cons first others =>
      obtain ⟨inside, after, listed, rfl, left⟩ := body.members
      exact .filled leading listed (isPadding_of_hasTokens_nil left)

theorem tokens_eq_objectTokens_iff {members : List (Text × Text)} :
    tokens text = objectTokens members ↔ IsObject (members.map asString) text := by
  constructor
  · exact isObject_of_tokens
  · intro object
    exact (spells_object object).tokens_eq

theorem isObject_writeIndentedObject (members : List (Text × Text)) :
    IsObject (members.map asString)
      (writeIndentedObject (members.map fun member => (member.1, writeString member.2))) :=
  isObject_of_tokens
    (Spells.indentedObject Prod.fst (fun member : Text × Text => .string member.2) members).tokens_eq

end Tokens

end Termbase.Json
