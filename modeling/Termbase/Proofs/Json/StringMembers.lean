import Termbase.Proofs.Json.Objects
import Termbase.Proofs.Steps

/-! Reading an object of strings: a reader that takes certain strings reads the objects whose values are such
strings, and refuses all others. -/

namespace Termbase.Json

section Reading

variable {σ : Type} {read : MemberReader σ} {fits : Text → Prop} {step : σ → Text × Text → σ}

/-- The reader takes a member when its value is a string that fits, and no other member. -/
def TakesStrings (read : MemberReader σ) (fits : Text → Prop) (step : σ → Text × Text → σ) : Prop :=
  ∀ state key tokens next rest, read state key tokens = .ok (next, rest) ↔
    ∃ value, fits value ∧ tokens = .colon :: .string value :: rest ∧ next = step state (key, value)

theorem readMembers_step (takes : TakesStrings read fits step) {count : Nat} {state final : σ}
    {found rest : List Token} (done : readMembers read count state found = .ok (final, rest)) :
    ∃ turns member more, count = turns + 1 ∧ fits member.2 ∧ found = stringMember member ++ more ∧
      (more = .closeBrace :: rest ∧ final = step state member ∨
        ∃ others, more = .comma :: others ∧
          readMembers read turns (step state member) others = .ok (final, rest)) := by
  cases count with
  | zero => cases done
  | succ turns =>
      unfold readMembers at done
      split at done
      next key tail =>
        obtain ⟨⟨next, more⟩, taken, onward⟩ := bind_eq_ok_iff.mp done
        obtain ⟨value, fit, rfl, rfl⟩ := (takes ..).mp taken
        refine ⟨turns, (key, value), more, rfl, fit, rfl, ?_⟩
        dsimp only at onward
        split at onward
        next others => exact Or.inr ⟨others, rfl, onward⟩
        next =>
          cases onward
          exact Or.inl ⟨rfl, rfl⟩
        next => cases onward
      next => cases done
      next => cases done

theorem exists_of_readMembers (takes : TakesStrings read fits step) {count : Nat} {state final : σ}
    {found rest : List Token} (done : readMembers read count state found = .ok (final, rest)) :
    ∃ first others, (∀ member ∈ first :: others, fits member.2) ∧
      found = separated ((first :: others).map stringMember) ++ .closeBrace :: rest ∧
      final = (first :: others).foldl step state := by
  induction count generalizing state found with
  | zero => cases done
  | succ count ih =>
      obtain ⟨turns, member, more, same, fit, rfl, ⟨rfl, rfl⟩ | ⟨others, rfl, later⟩⟩ :=
        readMembers_step takes done
      · exact ⟨member, [], by simpa using fit, rfl, rfl⟩
      · obtain rfl : count = turns := by omega
        obtain ⟨second, others, fitting, rfl, rfl⟩ := ih later
        exact ⟨member, second :: others, List.forall_mem_cons.mpr ⟨fit, fitting⟩, rfl, rfl⟩

theorem readObjectBody_eq_ok_iff (takes : TakesStrings read fits step) {state final : σ}
    {found rest : List Token} :
    readObjectBody read state found = .ok (final, rest) ↔
      ∃ members : List (Text × Text), (∀ member ∈ members, fits member.2) ∧
        found = separated (members.map stringMember) ++ .closeBrace :: rest ∧
        final = members.foldl step state := by
  constructor
  · intro done
    unfold readObjectBody at done
    split at done
    next =>
      cases done
      exact ⟨[], by simp, rfl, rfl⟩
    next =>
      obtain ⟨first, others, fitting, shape, result⟩ := exists_of_readMembers takes done
      exact ⟨first :: others, fitting, shape, result⟩
  · rintro ⟨members, fitting, rfl, rfl⟩
    obtain ⟨items, rfl⟩ : ∃ items : List { member : Text × Text // fits member.2 },
        items.map (·.1) = members :=
      ⟨members.attachWith _ fitting, List.attachWith_map_subtype_val ..⟩
    have each : ∀ state (item : { member : Text × Text // fits member.2 }) rest,
        read state item.1.1 (.colon :: [.string item.1.2] ++ rest) = .ok (step state item.1, rest) := by
      intro state item rest
      exact (takes ..).mpr ⟨item.1.2, item.2, rfl, rfl⟩
    rw [List.map_map, List.foldl_map]
    exact readObjectBody_separated _ _ each items state rest

theorem no_string_of_other {before rest : Text} {c : Char} (leading : IsPadding before)
    (visible : isSpace c = false) (notQuote : c ≠ '"') (content : Text) (left : List Token) :
    ¬ HasTokens (before ++ c :: rest) (.string content :: left) := by
  intro has
  obtain ⟨_, inner, rfl⟩ := (spells_padding leading).exists_hasTokens has
  obtain ⟨padding, written, after, padded, _, shape, _⟩ := HasTokens.string inner
  cases padding with
  | nil =>
      rw [List.nil_append, List.cons.injEq] at shape
      exact notQuote shape.1
  | cons blank padding =>
      rw [List.cons_append, List.cons.injEq] at shape
      rw [shape.1, padded blank List.mem_cons_self] at visible
      cases visible

theorem HasTokens.member {member : Text × Option Text} {text after : Text} {found : List Token}
    (written : IsMember member text) (has : HasTokens (text ++ after) found) :
    ∃ tail, found = .string member.1 :: .colon :: tail ∧
      ∀ content left, tail = .string content :: left → member.2 = some content ∧ HasTokens after left := by
  obtain ⟨named, held⟩ := written
  next key first second value =>
    rw [List.append_assoc] at has
    obtain ⟨_, behind, rfl⟩ := (spells_string named).exists_hasTokens has
    obtain ⟨tail, beyond, rfl⟩ := Spells.colon.exists_hasTokens behind
    change HasTokens (second ++ after) tail at beyond
    refine ⟨tail, rfl, ?_⟩
    rintro content left rfl
    cases held with
    | string isString =>
        obtain ⟨more, last, same⟩ := (spells_string isString).exists_hasTokens beyond
        cases same
        exact ⟨rfl, last⟩
    | other leading visible notQuote =>
        rw [List.append_assoc, List.cons_append] at beyond
        exact absurd beyond (no_string_of_other leading visible notQuote content left)

theorem AreMembers.not_closed {members : List (Text × Option Text)} {text after : Text} {left : List Token}
    (listed : AreMembers members text) : ¬ HasTokens (text ++ after) (.closeBrace :: left) := by
  intro has
  cases listed with
  | last here =>
      obtain ⟨tail, begun, _⟩ := has.member here
      cases begun
  | cons here later =>
      rw [List.append_assoc] at has
      obtain ⟨tail, begun, _⟩ := has.member here
      cases begun

theorem fits_of_readMembers (takes : TakesStrings read fits step) {members : List (Text × Option Text)}
    {text after : Text} (listed : AreMembers members text) {count : Nat} {state final : σ}
    {found rest : List Token} (has : HasTokens (text ++ after) found)
    (done : readMembers read count state found = .ok (final, rest)) :
    ∀ member ∈ members, ∃ value, member.2 = some value ∧ fits value := by
  -- By the grammar: each turn of the reader takes one member of the text, which has to be a string.
  induction listed generalizing count state found with
  | last here =>
      obtain ⟨turns, taken, more, _, fit, shape, _⟩ := readMembers_step takes done
      obtain ⟨tail, begun, string⟩ := has.member here
      rw [begun] at shape
      simp only [stringMember, memberTokens, List.cons_append, List.nil_append, List.cons.injEq] at shape
      simpa using ⟨_, (string _ _ shape.2.2).1, fit⟩
  | cons here later ih =>
      obtain ⟨turns, taken, more, _, fit, shape, next⟩ := readMembers_step takes done
      rw [List.append_assoc] at has
      obtain ⟨tail, begun, string⟩ := has.member here
      rw [begun] at shape
      simp only [stringMember, memberTokens, List.cons_append, List.nil_append, List.cons.injEq] at shape
      obtain ⟨isString, behind⟩ := string _ _ shape.2.2
      obtain ⟨left, others, rfl⟩ := Spells.comma.exists_hasTokens behind
      rcases next with ⟨ended, _⟩ | ⟨left', same, onward⟩
      · cases ended
      · cases same
        exact List.forall_mem_cons.mpr ⟨⟨_, isString, fit⟩, ih others onward⟩

theorem fits_of_readObjectBody (takes : TakesStrings read fits step) {members : List (Text × Option Text)}
    {text : Text} (object : IsObject members text) {state final : σ} {body rest : List Token}
    (opened : tokens text = .openBrace :: body)
    (done : readObjectBody read state body = .ok (final, rest)) :
    ∀ member ∈ members, ∃ value, member.2 = some value ∧ fits value := by
  have has := hasTokens_tokens text
  rw [opened] at has
  cases object with
  | empty noMembers => simp [noMembers]
  | filled leading listed trailing =>
      obtain ⟨_, has, rfl⟩ := (spells_padding leading).exists_hasTokens has
      obtain ⟨left, behind, same⟩ := Spells.openBrace.exists_hasTokens has
      obtain rfl : body = left := (List.cons.inj same).2
      unfold readObjectBody at done
      split at done
      next => exact absurd behind listed.not_closed
      next => exact fits_of_readMembers takes listed behind done

end Reading

end Termbase.Json
