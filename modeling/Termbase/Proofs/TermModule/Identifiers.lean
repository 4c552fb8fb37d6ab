import Termbase.Proofs.TermModule.Numbering

/-! Which names of terms are identifiers. They keep every character of the local names but spaces, hyphens and
underscores, so that all of them are identifiers only if the local names are made of the right characters. -/

namespace Termbase.TermModule

open WordCase

section Extended

variable {alphabet : Alphabet} {name tail : Text}

theorem continues_of_word {c : Char} (word : isWordCharacter c = true) : alphabet.continues c = true := by
  rwa [alphabet.continues_ascii c (toNat_of_isWordCharacter word)]

theorem continues_underscore (alphabet : Alphabet) : alphabet.continues '_' = true := continues_of_word rfl

theorem isWordCharacter_of_isDigit {c : Char} (digit : c.isDigit = true) : isWordCharacter c = true := by
  have between : isAsciiDigit c = true := by
    simpa [Char.isDigit, isAsciiDigit, Char.le_def] using digit
  rw [isWordCharacter, isAsciiAlphanumeric, between, Bool.or_true, Bool.true_or]

theorem isIdentifier_append_iff (identifier : alphabet.IsIdentifier name) :
    alphabet.IsIdentifier (name ++ tail) ↔ tail.all alphabet.continues = true := by
  cases name with
  | nil => exact identifier.elim
  | cons c rest =>
      obtain ⟨begins, continues, notAlone⟩ := identifier
      rw [List.cons_append]
      constructor
      · rintro ⟨_, all, _⟩
        rw [List.all_append, Bool.and_eq_true] at all
        exact all.2
      · intro all
        refine ⟨begins, ?_, ?_⟩
        · rw [List.all_append, continues, all]
          rfl
        · intro alone
          obtain ⟨rfl, empty⟩ := List.cons.inj alone
          exact notAlone (by rw [(List.append_eq_nil_iff.mp empty).1])

theorem isIdentifier_append (identifier : alphabet.IsIdentifier name) (word : tail.all isWordCharacter = true) :
    alphabet.IsIdentifier (name ++ tail) := by
  rw [isIdentifier_append_iff identifier]
  rw [List.all_eq_true] at word ⊢
  exact fun c member => continues_of_word (word c member)

theorem isIdentifier_numbered (identifier : alphabet.IsIdentifier name) (number : Nat) :
    alphabet.IsIdentifier (numbered name number) := by
  rw [numbered, List.append_assoc]
  apply isIdentifier_append identifier
  rw [List.all_append, Bool.and_eq_true, List.all_eq_true (l := Text.ofNat number)]
  exact ⟨by decide, fun c member => isWordCharacter_of_isDigit (isDigit_of_mem_ofNat member)⟩

end Extended

section Spelled

variable {alphabet : Alphabet} {entries : List TermEntry} {entry : TermEntry}

theorem isIdentifier_constantCase_iff {localName : Text} :
    alphabet.IsIdentifier (constantCase localName) ↔ alphabet.IsIdentifier (Text.upper (kept localName)) := by
  obtain ⟨capitals, joined, flat, proper⟩ := constantCase_eq localName
  rw [joined, ← flat]
  cases capitals with
  | nil => exact Iff.rfl
  | cons word words =>
      rw [List.forall_mem_cons] at proper
      obtain ⟨c, rest, rfl⟩ := List.exists_cons_of_ne_nil proper.1
      have continued := all_join (continues_underscore alphabet) (rest :: words)
      have empty : Text.join ['_'] (rest :: words) = [] ↔ (rest :: words).flatten = [] := join_eq_nil_iff proper.2
      rw [List.flatten_cons] at continued empty
      rw [join_cons_cons, List.flatten_cons, List.cons_append]
      simp only [Alphabet.IsIdentifier, continued, ne_eq, List.cons.injEq, empty]

/-- What the local name needs, so that the term gets an identifier: all that is kept of it must belong into one,
and it must begin like one, unless a deprecated term's mark stands before it. -/
def IsSpellable (alphabet : Alphabet) (entry : TermEntry) : Prop :=
  if entry.deprecation.isMarked then (Text.upper (kept entry.localName)).all alphabet.continues = true
  else alphabet.IsIdentifier (Text.upper (kept entry.localName))

theorem isIdentifier_baseName_iff : alphabet.IsIdentifier (baseName entry) ↔ IsSpellable alphabet entry := by
  unfold baseName IsSpellable
  split
  next =>
    obtain ⟨capitals, joined, flat, _⟩ := constantCase_eq entry.localName
    have mark : alphabet.IsIdentifier "DEPRECATED_".toList := identifier_of_ascii (by decide) (by decide)
    rw [isIdentifier_append_iff mark, joined, ← flat, all_join (continues_underscore alphabet)]
  next => exact isIdentifier_constantCase_iff

theorem isIdentifier_wantedName (identifier : alphabet.IsIdentifier (baseName entry)) :
    alphabet.IsIdentifier (wantedName entries entry) := by
  simp only [wantedName]
  split
  next => exact isIdentifier_append identifier (by decide)
  next => exact identifier

/-- A mark or a number could make an identifier of a name that is none, but then another term has that name. -/
theorem constantNames_identifiers_iff :
    (∀ name ∈ constantNames entries, alphabet.IsIdentifier name) ↔
      ∀ entry ∈ entries, IsSpellable alphabet entry := by
  constructor
  · intro identifiers entry member
    rw [← isIdentifier_baseName_iff]
    exact identifiers _ (mem_freeNames_of_mem (mem_wantedNames member) List.not_mem_nil)
  · intro spellable name member
    obtain ⟨wanted, inside, made⟩ := wanted_or_numbered member
    obtain ⟨entry, listed, rfl⟩ := List.mem_map.mp inside
    have identifier : alphabet.IsIdentifier (wantedName entries entry) :=
      isIdentifier_wantedName (isIdentifier_baseName_iff.mpr (spellable entry listed))
    rcases made with rfl | ⟨number, rfl⟩
    · exact identifier
    · exact isIdentifier_numbered identifier number

end Spelled

section Ascii

variable {alphabet : Alphabet} {c : Char} {text : Text} {entry : TermEntry}

theorem isWordCharacter_asciiUpper (ascii : c.toNat < 128) :
    isWordCharacter (asciiUpper c) = isWordCharacter c := by
  obtain ⟨_, _, _, alphanumeric, underscore⟩ := asciiUpper_of_ascii ascii
  rw [isWordCharacter, alphanumeric, underscore, isWordCharacter]

theorem all_continues_of_ascii (ascii : IsAscii text) :
    text.all alphabet.continues = text.all isWordCharacter := by
  induction text with
  | nil => rfl
  | cons c rest ih =>
      obtain ⟨first, later⟩ := List.forall_mem_cons.mp ascii
      rw [List.all_cons, List.all_cons, alphabet.continues_ascii c first, ih later]

theorem isIdentifier_iff_of_ascii (ascii : IsAscii text) (absent : '_' ∉ text) :
    alphabet.IsIdentifier text ↔ text.all isWordCharacter = true ∧ text.head?.any isAsciiLetter = true := by
  constructor
  · intro identifier
    cases text with
    | nil => exact identifier.elim
    | cons c rest =>
        obtain ⟨begins, continues, _⟩ := identifier
        obtain ⟨first, later⟩ := List.forall_mem_cons.mp ascii
        have different : c ≠ '_' := fun same => absent (same ▸ List.mem_cons_self)
        have letter : isAsciiLetter c = true := by simpa [begins_ascii first, different] using begins
        rw [all_continues_of_ascii later] at continues
        refine ⟨?_, letter⟩
        rw [List.all_cons, continues, isWordCharacter, isAsciiAlphanumeric, letter]
        rfl
  · rintro ⟨word, letter⟩
    exact identifier_of_ascii letter word

theorem all_word_upper_kept_iff (ascii : IsAscii text) :
    (Text.upper (kept text)).all isWordCharacter = true ↔
      ∀ c ∈ text, isAsciiAlphanumeric c = true ∨ isSeparator [c] = true := by
  rw [upper_of_ascii (isAscii_kept ascii), List.all_map, List.all_eq_true, kept_of_ascii ascii]
  simp only [List.mem_filter, Function.comp_apply, and_imp]
  refine forall₂_congr fun c member => ?_
  rw [isWordCharacter_asciiUpper (ascii c member), isWordCharacter, Bool.or_eq_true, beq_iff_eq]
  cases separates : isSeparator [c] with
  | true => simp
  | false =>
      have different : c ≠ '_' := by
        rintro rfl
        cases separates
      simp [different]

theorem head?_upper_kept (ascii : IsAscii text) :
    (Text.upper (kept text)).head?.any isAsciiLetter =
      (text.find? fun c => !isSeparator [c]).any isAsciiLetter := by
  rw [upper_of_ascii (isAscii_kept ascii), List.head?_map, kept_of_ascii ascii, List.head?_filter]
  cases found : text.find? fun c => !isSeparator [c] with
  | none => rfl
  | some c => exact (asciiUpper_of_ascii (ascii c (List.mem_of_find?_eq_some found))).2.2.1

theorem isSpellable_iff_of_ascii (ascii : IsAscii entry.localName) :
    IsSpellable alphabet entry ↔
      (∀ c ∈ entry.localName, isAsciiAlphanumeric c = true ∨ isSeparator [c] = true) ∧
      (entry.deprecation.isMarked = true ∨
        (entry.localName.find? fun c => !isSeparator [c]).any isAsciiLetter = true) := by
  have capitalsAscii := isAscii_upper (isAscii_kept ascii)
  rw [← all_word_upper_kept_iff ascii, ← head?_upper_kept ascii]
  unfold IsSpellable
  split
  next marked =>
    rw [all_continues_of_ascii capitalsAscii]
    simp [marked]
  next unmarked =>
    rw [isIdentifier_iff_of_ascii capitalsAscii (underscore_not_mem_upper_kept ascii)]
    simp [unmarked]

end Ascii

/-- All names are identifiers exactly if every local name, in capitals and without its separators, is one, or at
least continues one if the term is deprecated. Of ASCII characters, only letters, digits and separators will do,
and the first letter or digit has to be a letter. -/
theorem identifiers_iff_spellable (alphabet : Alphabet) (entries : List TermEntry) :
    ((∀ name ∈ constantNames entries, alphabet.IsIdentifier name) ↔
        ∀ entry ∈ entries, IsSpellable alphabet entry) ∧
      ∀ entry, IsAscii entry.localName → (IsSpellable alphabet entry ↔
        (∀ c ∈ entry.localName, isAsciiAlphanumeric c = true ∨ isSeparator [c] = true) ∧
        (entry.deprecation.isMarked = true ∨
          (entry.localName.find? fun c => !isSeparator [c]).any isAsciiLetter = true)) :=
  ⟨constantNames_identifiers_iff, fun _ ascii => isSpellable_iff_of_ascii ascii⟩

def spelledEntries : List TermEntry :=
  [⟨"foo-bar 2".toList, none, none, true, .none⟩, ⟨"foo_bar2".toList, none, none, false, .none⟩,
    ⟨"2nd".toList, none, none, false, ⟨true, [], []⟩⟩]

theorem spelled_entries_are_identifiers :
    constantNames spelledEntries =
        ["FOO_BAR_2_CLASS".toList, "FOO_BAR_2".toList, "DEPRECATED_2_ND".toList] ∧
      ∀ name ∈ constantNames spelledEntries, asciiAlphabet.IsIdentifier name := by
  have names : constantNames spelledEntries =
      ["FOO_BAR_2_CLASS".toList, "FOO_BAR_2".toList, "DEPRECATED_2_ND".toList] := by
    decide +kernel
  have ascii : ∀ entry ∈ spelledEntries, IsAscii entry.localName := by decide
  have spelled : ∀ entry ∈ spelledEntries,
      entry.localName.all (fun c => isAsciiAlphanumeric c || isSeparator [c]) = true ∧
      (entry.deprecation.isMarked = true ∨
        (entry.localName.find? fun c => !isSeparator [c]).any isAsciiLetter = true) := by
    decide
  obtain ⟨identifiers, spellable⟩ := identifiers_iff_spellable asciiAlphabet spelledEntries
  refine ⟨names, identifiers.mpr ?_⟩
  intro entry member
  obtain ⟨characters, first⟩ := spelled entry member
  refine (spellable entry (ascii entry member)).mpr ⟨?_, first⟩
  simpa using characters

def dottedTerms : Text :=
  "<u:n> a <http://www.w3.org/2002/07/owl#Ontology> ; ".toList ++
    "<http://purl.org/vocab/vann/preferredNamespaceUri> \"u:n#\" .\n".toList ++
    "<u:n#a.b> a <http://www.w3.org/2002/07/owl#Class> .\n".toList ++
    "<u:n#2nd> a <http://www.w3.org/2002/07/owl#Class> .\n".toList

def dottedOutline : Outline :=
  ⟨none, none, none, some "u:n#".toList,
    [⟨"a.b".toList, none, none, true, .none⟩, ⟨"2nd".toList, none, none, true, .none⟩]⟩

theorem dots_are_kept :
    ∃ content, Ontology.Content.read? .turtle (Utf8.encode dottedTerms) = some content ∧
      content.graph.outline .source = .ok dottedOutline ∧
      constantNames dottedOutline.entries = [['A', '.', 'B'], ['2', '_', 'N', 'D']] ∧
      ∀ alphabet : Alphabet, ∀ name ∈ constantNames dottedOutline.entries, ¬ alphabet.IsIdentifier name := by
  have outlined : ((Ontology.Content.read? .turtle (Utf8.encode dottedTerms)).bind fun content =>
      (content.graph.outline .source).toOption) = some dottedOutline := by
    decide +kernel
  obtain ⟨content, read, outlined⟩ := Option.bind_eq_some_iff.mp outlined
  have names : constantNames dottedOutline.entries = [['A', '.', 'B'], ['2', '_', 'N', 'D']] := by
    decide +kernel
  refine ⟨content, read, ok_of_toOption outlined, names, ?_⟩
  intro alphabet name member identifier
  rw [names, List.mem_pair] at member
  rcases member with rfl | rfl
  · have stops : alphabet.continues '.' = false := alphabet.continues_ascii '.' (by decide)
    have goesOn : alphabet.continues '.' = true := List.all_eq_true.mp identifier.2.1 '.' List.mem_cons_self
    cases stops.symm.trans goesOn
  · have apart : alphabet.begins '2' = false := begins_ascii (by decide)
    cases apart.symm.trans identifier.1

end Termbase.TermModule
