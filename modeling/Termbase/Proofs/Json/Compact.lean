import Termbase.Proofs.Json.Written

/-! JSON on one line as the reader sees it: flags, arrays, and objects of two members. -/

namespace Termbase.Json

theorem afterWord_append (word rest : Text) : afterWord word (word ++ rest) = .ok rest := by
  induction word with
  | nil => rfl
  | cons c word ih => simp only [List.cons_append, afterWord, if_true, ih]

namespace Spells

theorem openBracket : Spells ['['] [.openBracket] := mark (by decide) fun _ => rfl

theorem closeBracket : Spells [']'] [.closeBracket] := mark (by decide) fun _ => rfl

theorem bool (value : Bool) : Spells (writeBool value) [.bool value] := by
  cases value with
  | true =>
      have shape : writeBool true = 't' :: "rue".toList := rfl
      rw [shape]
      apply token (by decide)
      intro rest
      simp only [nextToken, afterWord_append]
  | false =>
      have shape : writeBool false = 'f' :: "alse".toList := rfl
      rw [shape]
      apply token (by decide)
      intro rest
      simp only [nextToken, afterWord_append]

theorem array {α : Type} {write : α → Text} {found : α → List Token}
    (each : ∀ item, Spells (write item) (found item)) (items : List α) :
    Spells (writeArray (items.map write)) (.openBracket :: (separated (items.map found) ++ [.closeBracket])) := by
  have whole := (openBracket.append (join each items)).append closeBracket
  simpa [writeArray] using whole

theorem member (key : Text) {value : Text} {found : List Token} (spells : Spells value found) :
    Spells (writeMember (key, value)) (memberTokens key found) := by
  have whole := ((string key).append colon).append spells
  simpa [writeMember, memberTokens] using whole

end Spells

def pairTokens (firstKey : Text) (first : List Token) (secondKey : Text) (second : List Token) : List Token :=
  .openBrace :: (memberTokens firstKey first ++ .comma :: (memberTokens secondKey second ++ [.closeBrace]))

theorem Spells.pair (firstKey secondKey : Text) {first second : Text} {found next : List Token}
    (spellsFirst : Spells first found) (spellsSecond : Spells second next) :
    Spells (writeObject [(firstKey, first), (secondKey, second)]) (pairTokens firstKey found secondKey next) := by
  have members := ((member firstKey spellsFirst).append comma).append (member secondKey spellsSecond)
  have whole := (openBrace.append members).append closeBrace
  simpa [writeObject, Text.join, pairTokens] using whole

section Reading

theorem readObjectBody_pair {σ : Type} {read : MemberReader σ} {state middle final : σ}
    {firstKey secondKey : Text} {first second : List Token}
    (takesFirst : ∀ more, read state firstKey (.colon :: first ++ more) = .ok (middle, more))
    (takesSecond : ∀ more, read middle secondKey (.colon :: second ++ more) = .ok (final, more))
    (rest : List Token) :
    readObjectBody read state
        (memberTokens firstKey first ++ .comma :: (memberTokens secondKey second ++ .closeBrace :: rest)) =
      .ok (final, rest) := by
  have onward (count : Nat) : readMembers read (count + 2) state
      (memberTokens firstKey first ++ .comma :: (memberTokens secondKey second ++ .closeBrace :: rest)) =
        .ok (final, rest) := by
    rw [readMembers_comma (count + 1) (takesFirst _), readMembers_closeBrace count (takesSecond _)]
  obtain ⟨count, enough⟩ : ∃ count,
      (memberTokens firstKey first ++ .comma :: (memberTokens secondKey second ++ .closeBrace :: rest)).length =
        count + 2 := by
    refine ⟨first.length + second.length + rest.length + 4, ?_⟩
    simp only [memberTokens, List.length_append, List.length_cons]
    omega
  rw [← onward count, ← enough]
  rfl

variable {α : Type} {read : Reader α} {found : α → List Token}

theorem readItems_separated (first : α) (others : List α)
    (each : ∀ item ∈ first :: others, ∀ rest, read (found item ++ rest) = .ok (item, rest)) {count : Nat}
    (enough : others.length < count) (rest : List Token) :
    readItems read count (separated ((first :: others).map found) ++ .closeBracket :: rest) =
      .ok (first :: others, rest) := by
  obtain ⟨count, rfl⟩ : ∃ left, count = left + 1 := ⟨count - 1, by omega⟩
  induction others generalizing first count with
  | nil =>
      simp only [List.map_cons, List.map_nil, separated, readItems, each first List.mem_cons_self, bind,
        Except.bind]
  | cons second others ih =>
      obtain ⟨count, rfl⟩ : ∃ left, count = left + 1 :=
        ⟨count - 1, by simp only [List.length_cons] at enough; omega⟩
      have later := ih second (fun item member => each item (List.mem_cons_of_mem first member)) count
        (by simpa using enough)
      simp only [List.map_cons, separated, List.append_assoc, List.cons_append] at later ⊢
      rw [readItems, each first List.mem_cons_self]
      simp only [bind, Except.bind, later]
      rfl

theorem readArray_separated (items : List α)
    (begins : ∀ item ∈ items, ∃ token tail, found item = token :: tail ∧ token ≠ .closeBracket)
    (each : ∀ item ∈ items, ∀ rest, read (found item ++ rest) = .ok (item, rest)) (rest : List Token) :
    readArray read (.openBracket :: (separated (items.map found) ++ .closeBracket :: rest)) =
      .ok (items, rest) := by
  cases items with
  | nil => rfl
  | cons first others =>
      have long : others.length < (separated ((first :: others).map found) ++ .closeBracket :: rest).length := by
        have commas := length_le_separated ((first :: others).map found)
        simp only [List.length_map, List.length_cons, List.length_append] at commas ⊢
        omega
      have items := readItems_separated first others each long rest
      obtain ⟨token, tail, shape, notEnd⟩ := begins first List.mem_cons_self
      obtain ⟨more, opened⟩ : ∃ more, separated ((first :: others).map found) ++ .closeBracket :: rest =
          token :: more := by
        cases others <;> simp [separated, shape]
      rw [opened] at items ⊢
      unfold readArray
      split
      next ended =>
        cases ended
        exact absurd rfl notEnd
      next ended =>
        cases ended
        exact items
      next other => exact absurd rfl (other _)

end Reading

end Termbase.Json
