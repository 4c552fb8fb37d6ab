import Mathlib.Data.List.Basic
import Termbase.Proofs.TermModule.Items

/-! A generated module is read as the vocabulary that it was made from, exactly if no text of it holds a
carriage return or needs a longer guard than literals may have. -/

namespace Termbase.TermModule

def constantOf (name : Text) (entry : TermEntry) : TermConstant where
  name
  base := "NS_BASE".toList
  localName := entry.localName
  documentation := entry.documentation
  deprecation := if entry.deprecation.isMarked then some (entry.deprecation.since, entry.deprecation.advice)
    else none

def declared (label title : Text) (namespaceTerm : Bool) (entries : List TermEntry) : Declarations where
  terms := (constantNames entries).zipWith constantOf entries
  listing := ⟨pascalCase label, title, namespaceTerm, constantNames entries⟩

def settledPair? (texts : Text × Text) : Option (Text × Text) :=
  (denoted? texts.1).bind fun first => (denoted? texts.2).map (first, ·)

/-- The constant as it is read, when each of its texts is written as a literal. -/
def TermConstant.settled? (constant : TermConstant) : Option TermConstant :=
  (denoted? constant.documentation).bind fun documentation =>
    match constant.deprecation with
    | none => some { constant with documentation }
    | some texts => (settledPair? texts).map fun texts =>
        { constant with documentation, deprecation := some texts }

def Listing.settled? (listing : Listing) : Option Listing :=
  (denoted? listing.title).map fun title => { listing with title }

def settledTerms? : List TermConstant → Option (List TermConstant)
  | [] => some []
  | constant :: rest => constant.settled?.bind fun constant => (settledTerms? rest).map (constant :: ·)

def Declarations.settled? (declarations : Declarations) : Option Declarations :=
  (settledTerms? declarations.terms).bind fun terms => declarations.listing.settled?.map (⟨terms, ·⟩)

section Spelled

variable {alphabet : Alphabet}

open Alphabet.Spells

variable {written : Text} {found : Option Token}

theorem spells_marked {c : Char} (stands : alphabet.Stands written found) (isMark : c ∈ marks) :
    alphabet.Spells (written ++ [c]) (found.map ([·, .mark c])) :=
  separated stands (separates_of_mem (List.mem_cons_of_mem _ isMark)) (mark isMark)

theorem spells_line (stands : alphabet.Stands written found) :
    alphabet.Spells (written ++ ['\n']) (found.map ([·])) :=
  separated stands (separates_of_mem List.mem_cons_self) (space (by decide))

theorem spells_argumentLine {blank : Text} (spaces : blank.all isSpace = true)
    (stands : alphabet.Stands written found) :
    alphabet.Spells (sourceLine [blank, written, [',']]) (found.map ([·, .mark ','])) := by
  have whole := ((blanks spaces).append (spells_marked (c := ',') stands (by decide))).append
    (space (c := '\n') (by decide))
  simpa [sourceLine] using whole

def argumentTokens : List (Option Token) → Option (List Token)
  | [] => some []
  | [last] => last.map ([·])
  | first :: second :: rest => chain (first.map ([·, .mark ','])) (argumentTokens (second :: rest))

theorem arguments_cons (first second : Text) (rest : List Text) :
    arguments (first :: second :: rest) =
      sourceLine ["    ".toList, first, [',']] ++ arguments (second :: rest) := by
  simp [arguments, Text.join, sourceLine]

theorem spells_arguments (values : List (Text × Option Token))
    (stand : ∀ value ∈ values, alphabet.Stands value.1 value.2) :
    alphabet.Spells (arguments (values.map (·.1))) (argumentTokens (values.map (·.2))) := by
  have indent : "    ".toList.all isSpace = true := by decide
  induction values with
  | nil => exact space (by decide)
  | cons first rest ih =>
      rw [List.forall_mem_cons] at stand
      cases rest with
      | nil =>
          have line := (blanks indent).append (spells_line stand.1)
          simpa [arguments, Text.join, argumentTokens] using line
      | cons second rest =>
          have line := (spells_argumentLine indent stand.1).append (ih stand.2)
          rwa [List.map_cons, List.map_cons, ← arguments_cons] at line

theorem spells_opening {item : Text} (letter : item.head?.any isAsciiLetter)
    (word : item.all isWordCharacter) :
    alphabet.Spells (item ++ ['!', '(', '\n']) (some (opening item)) := by
  have stands : alphabet.Stands item (some (.word item)) := stands_word (identifier_of_ascii letter word)
  have named := spells_marked (c := '!') stands (by decide)
  have open' : alphabet.Spells ['('] (some [.mark '(']) := mark (by decide)
  have whole := (named.append open').append (space (c := '\n') (by decide))
  simpa [chain, opening] using whole

theorem spells_ending : alphabet.Spells [')', ';', '\n'] (some [.mark ')', .mark ';']) :=
  (mark (c := ')') (by decide)).append ((mark (c := ';') (by decide)).append (space (by decide)))

theorem stands_localName {localName : Text} (plain : ∀ c ∈ localName, c ≠ '"' ∧ c ≠ '\\' ∧ c ≠ '\r') :
    alphabet.Stands ('"' :: localName ++ ['"']) (some (.string localName)) := by
  have noQuote : '"' ∉ localName := fun member => (plain _ member).1 rfl
  have noBackslash : '\\' ∉ localName := fun member => (plain _ member).2.1 rfl
  have noReturn : '\r' ∉ localName := fun member => (plain _ member).2.2 rfl
  have stands : alphabet.Stands _ _ := stands_plain noQuote
  rwa [escapedBackslashes_eq noBackslash, settled?_eq_some noReturn] at stands

def literalOf (text : Text) : Text × Option Token := (stringLiteral text, (denoted? text).map .string)

def argumentsOf (name : Text) (entry : TermEntry) : List (Text × Option Token) :=
  [(name, some (.word name)), ("NS_BASE".toList, some (.word "NS_BASE".toList)),
    ('"' :: entry.localName ++ ['"'], some (.string entry.localName)), literalOf entry.documentation] ++
    if entry.deprecation.isMarked then [literalOf entry.deprecation.since, literalOf entry.deprecation.advice]
    else []

theorem termItem_eq (name : Text) (entry : TermEntry) :
    termItem name entry = ['\n'] ++ ((constantOf name entry).item ++ ['!', '(', '\n']) ++
      arguments ((argumentsOf name entry).map (·.1)) ++ [')', ';', '\n'] := by
  cases deprecated : entry.deprecation.isMarked <;>
    simp [termItem, sourceLine, deprecationArguments, constantOf, TermConstant.item, argumentsOf, literalOf,
      deprecated]

theorem tokens_constantOf (name : Text) (entry : TermEntry) :
    chain (chain (some (opening (constantOf name entry).item))
        (argumentTokens ((argumentsOf name entry).map (·.2)))) (some [.mark ')', .mark ';']) =
      (constantOf name entry).settled?.map (·.tokens) := by
  simp only [argumentsOf, literalOf, constantOf, TermConstant.settled?, settledPair?]
  generalize denoted? entry.documentation = documentation
  cases entry.deprecation.isMarked with
  | false => cases documentation <;> rfl
  | true =>
      simp only [if_true]
      generalize denoted? entry.deprecation.since = since
      generalize denoted? entry.deprecation.advice = advice
      cases documentation <;> cases since <;> cases advice <;> rfl

theorem spells_termItem {name : Text} {entry : TermEntry} (identifier : alphabet.IsIdentifier name)
    (plain : ∀ c ∈ entry.localName, c ≠ '"' ∧ c ≠ '\\' ∧ c ≠ '\r') :
    alphabet.Spells (termItem name entry) ((constantOf name entry).settled?.map (·.tokens)) := by
  have base : alphabet.IsIdentifier "NS_BASE".toList := identifier_of_ascii (by decide) (by decide)
  have stand : ∀ value ∈ argumentsOf name entry, alphabet.Stands value.1 value.2 := by
    intro value member
    simp only [argumentsOf, List.mem_append, List.mem_cons] at member
    rcases member with (rfl | rfl | rfl | rfl | none) | deprecated
    · exact stands_word identifier
    · exact stands_word base
    · exact stands_localName plain
    · exact stands_stringLiteral _
    · cases none
    · split at deprecated
      next =>
        simp only [List.mem_cons, List.not_mem_nil, or_false] at deprecated
        rcases deprecated with rfl | rfl
        · exact stands_stringLiteral _
        · exact stands_stringLiteral _
      next => cases deprecated
  have opened : alphabet.Spells ((constantOf name entry).item ++ ['!', '(', '\n'])
      (some (opening (constantOf name entry).item)) := by
    unfold TermConstant.item
    split
    next => exact spells_opening (by decide) (by decide)
    next => exact spells_opening (by decide) (by decide)
  have blank : alphabet.Spells ['\n'] (some []) := space (by decide)
  have whole := ((blank.append opened).append (spells_arguments _ stand)).append spells_ending
  rwa [← termItem_eq, chain_nil, tokens_constantOf] at whole

theorem spells_listedNames {names : List Text} (identifiers : ∀ name ∈ names, alphabet.IsIdentifier name) :
    alphabet.Spells (names.flatMap listedName) (some (names.flatMap nameTokens)) := by
  induction names with
  | nil => exact nil
  | cons name names ih =>
      rw [List.forall_mem_cons] at identifiers
      have listed : alphabet.Spells (listedName name) (some (nameTokens name)) :=
        spells_argumentLine (by decide) (stands_word identifiers.1)
      exact listed.append (ih identifiers.2)

theorem spells_namespaceTerm (namespaceTerm : Bool) :
    alphabet.Spells (if namespaceTerm then sourceLine ["    namespace_term,".toList] else [])
      (some (if namespaceTerm then nameTokens "namespace_term".toList else [])) := by
  cases namespaceTerm with
  | false => exact nil
  | true =>
      have word : alphabet.IsIdentifier "namespace_term".toList := identifier_of_ascii (by decide) (by decide)
      have indent : "    ".toList.all isSpace = true := by decide
      exact spells_argumentLine indent (stands_word word)

theorem spells_listItem {label : Text} {names : List Text}
    (identifier : alphabet.IsIdentifier (pascalCase label))
    (identifiers : ∀ name ∈ names, alphabet.IsIdentifier name) (title : Text) (namespaceTerm : Bool) :
    alphabet.Spells (listItem label title namespaceTerm names)
      ((Listing.settled? ⟨pascalCase label, title, namespaceTerm, names⟩).map fun listing =>
        opening "vocabulary".toList ++ listing.arguments) := by
  have indent : "    ".toList.all isSpace = true := by decide
  have opened : alphabet.Spells ("vocabulary".toList ++ ['!', '(', '\n'])
      (some (opening "vocabulary".toList)) :=
    spells_opening (by decide) (by decide)
  have open' : alphabet.Spells (sourceLine ["    [".toList]) (some [.mark '[']) :=
    ((blanks indent).append (mark (by decide))).append (space (by decide))
  have close : alphabet.Spells (sourceLine ["    ]".toList]) (some [.mark ']']) :=
    ((blanks indent).append (mark (by decide))).append (space (by decide))
  have blank : alphabet.Spells (sourceLine []) (some []) := space (by decide)
  have whole : alphabet.Spells (listItem label title namespaceTerm names) _ :=
    (((((((blank.append opened).append (spells_argumentLine indent (stands_word identifier))).append
      (spells_argumentLine indent (stands_stringLiteral title))).append
      (spells_namespaceTerm namespaceTerm)).append open').append (spells_listedNames identifiers)).append
      close).append spells_ending
  rw [Listing.settled?]
  generalize denoted? title = denoted at whole ⊢
  cases denoted with
  | none => exact whole
  | some value =>
      simpa only [chain, Listing.arguments, Option.bind_some, Option.map_some, List.append_assoc,
        List.cons_append, List.nil_append] using whole

theorem spells_termItems {names : List Text} {entries : List TermEntry}
    (identifiers : ∀ name ∈ names, alphabet.IsIdentifier name)
    (plain : ∀ entry ∈ entries, ∀ c ∈ entry.localName, c ≠ '"' ∧ c ≠ '\\' ∧ c ≠ '\r') :
    alphabet.Spells (names.zipWith termItem entries).flatten
      ((settledTerms? (names.zipWith constantOf entries)).map (·.flatMap (·.tokens))) := by
  induction names generalizing entries with
  | nil => exact nil
  | cons name names ih =>
      cases entries with
      | nil => exact nil
      | cons entry entries =>
          rw [List.forall_mem_cons] at identifiers plain
          have whole := (spells_termItem identifiers.1 plain.1).append (ih identifiers.2 plain.2)
          rw [List.zipWith_cons_cons, List.zipWith_cons_cons, List.flatten_cons, settledTerms?]
          generalize (constantOf name entry).settled? = first at whole ⊢
          generalize settledTerms? (names.zipWith constantOf entries) = others at whole ⊢
          cases first <;> cases others <;> exact whole

theorem declarations?_body {label : Text} {entries : List TermEntry}
    (identifier : alphabet.IsIdentifier (pascalCase label))
    (identifiers : ∀ name ∈ constantNames entries, alphabet.IsIdentifier name)
    (plain : ∀ entry ∈ entries, ∀ c ∈ entry.localName, c ≠ '"' ∧ c ≠ '\\' ∧ c ≠ '\r')
    (title : Text) (namespaceTerm : Bool) :
    alphabet.declarations? (body label title namespaceTerm entries) =
      (declared label title namespaceTerm entries).settled? := by
  apply declarations?_of_tokens?
  have whole := (spells_termItems identifiers plain).append
    (spells_listItem identifier identifiers title namespaceTerm)
  rw [body, whole.tokens?_eq, declared, Declarations.settled?]
  generalize settledTerms? ((constantNames entries).zipWith constantOf entries) = terms
  generalize Listing.settled? ⟨pascalCase label, title, namespaceTerm, constantNames entries⟩ = listing
  cases terms with
  | none => rfl
  | some terms =>
      cases listing with
      | none => rfl
      | some listing => exact congrArg some (List.append_assoc _ _ _).symm

end Spelled

section Settled

theorem not_mem_settled {text value : Text} (settled : settled? text = some value) : '\r' ∉ value := by
  fun_induction settled? text generalizing value with
  | case1 => cases settled; simp
  | case2 rest ih =>
      obtain ⟨value, later, rfl⟩ := Option.map_eq_some_iff.mp settled
      simpa using ih later
  | case3 => cases settled
  | case4 c rest _ notReturn ih =>
      obtain ⟨value, later, rfl⟩ := Option.map_eq_some_iff.mp settled
      rw [List.mem_cons, not_or]
      exact ⟨Ne.symm notReturn, ih later⟩

theorem denoted?_eq_some_iff {text : Text} :
    denoted? text = some text ↔ '\r' ∉ text ∧ guardLength text ≤ 255 := by
  unfold denoted?
  constructor
  · intro denoted
    split at denoted
    next short => exact ⟨not_mem_settled denoted, short⟩
    next => cases denoted
  · rintro ⟨plain, short⟩
    rw [if_pos short, settled?_eq_some plain]

def TermConstant.texts (constant : TermConstant) : List Text :=
  constant.documentation :: constant.deprecation.toList.flatMap fun texts => [texts.1, texts.2]

theorem TermConstant.settled?_eq_some_iff {constant : TermConstant} :
    constant.settled? = some constant ↔ ∀ text ∈ constant.texts, denoted? text = some text := by
  obtain ⟨name, base, localName, documentation, deprecation⟩ := constant
  cases deprecation with
  | none => simp [TermConstant.settled?, TermConstant.texts, Option.bind_eq_some_iff]
  | some texts =>
      simp [TermConstant.settled?, TermConstant.texts, settledPair?, Option.bind_eq_some_iff, Prod.ext_iff]

theorem settledTerms?_eq_some_iff {terms : List TermConstant} :
    settledTerms? terms = some terms ↔ ∀ constant ∈ terms, constant.settled? = some constant := by
  induction terms with
  | nil => simp [settledTerms?]
  | cons constant terms ih =>
      rw [List.forall_mem_cons, ← ih]
      simp [settledTerms?, Option.bind_eq_some_iff]

theorem Declarations.settled?_eq_some_iff {declarations : Declarations} :
    declarations.settled? = some declarations ↔
      denoted? declarations.listing.title = some declarations.listing.title ∧
        ∀ constant ∈ declarations.terms, ∀ text ∈ constant.texts, denoted? text = some text := by
  obtain ⟨terms, label, title, namespaceTerm, names⟩ := declarations
  simp only [← TermConstant.settled?_eq_some_iff, ← settledTerms?_eq_some_iff]
  simp [Declarations.settled?, Listing.settled?, Option.bind_eq_some_iff, and_comm]

end Settled

theorem length_freeNames (taken names : List Text) : (freeNames taken names).length = names.length := by
  induction names generalizing taken with
  | nil => rfl
  | cons name names ih => simp [freeNames, ih]

theorem length_constantNames (entries : List TermEntry) :
    (constantNames entries).length = entries.length := by
  rw [constantNames, length_freeNames, List.length_map]

def entryTexts (entry : TermEntry) : List Text :=
  entry.documentation ::
    if entry.deprecation.isMarked then [entry.deprecation.since, entry.deprecation.advice] else []

theorem texts_constantOf (name : Text) (entry : TermEntry) :
    (constantOf name entry).texts = entryTexts entry := by
  simp only [TermConstant.texts, constantOf, entryTexts]
  cases entry.deprecation.isMarked <;> rfl

theorem forall_mem_zipWith {P : Text → Prop} {names : List Text} {entries : List TermEntry}
    (lengths : names.length = entries.length) :
    (∀ constant ∈ names.zipWith constantOf entries, ∀ text ∈ constant.texts, P text) ↔
      ∀ entry ∈ entries, ∀ text ∈ entryTexts entry, P text := by
  induction names generalizing entries with
  | nil =>
      cases entries with
      | nil => simp
      | cons => cases lengths
  | cons name names ih =>
      cases entries with
      | nil => cases lengths
      | cons entry entries =>
          rw [List.zipWith_cons_cons, List.forall_mem_cons, List.forall_mem_cons, texts_constantOf,
            ih (Nat.succ.inj lengths)]

def literalTexts (outline : Outline) : List Text := titleOf outline :: outline.entries.flatMap entryTexts

theorem settled?_declared_iff {label : Text} {namespaceTerm : Bool} {outline : Outline} :
    (declared label (titleOf outline) namespaceTerm outline.entries).settled? =
        some (declared label (titleOf outline) namespaceTerm outline.entries) ↔
      ∀ text ∈ literalTexts outline, '\r' ∉ text ∧ guardLength text ≤ 255 := by
  rw [Declarations.settled?_eq_some_iff]
  have terms := forall_mem_zipWith (P := fun text => denoted? text = some text)
    (length_constantNames outline.entries)
  simp only [declared, terms, literalTexts, ← denoted?_eq_some_iff, List.forall_mem_cons,
    List.forall_mem_flatMap]

def labelLine (label : Text) : Text :=
  sourceLine ["pub const NS_PREFERRED_PREFIX: &str = \"".toList, label, "\";".toList]

theorem exists_render_eq {label : Text} {start : Iri} {outline : Outline}
    (labelled : outline.label = some label) (given : outline.namespaceIri = some start) (header : Option Text) (namespaceTerm : Bool) :
    ∃ before, render header namespaceTerm outline = .ok (before ++ labelLine label ++
      body label (titleOf outline) namespaceTerm outline.entries) := by
  refine ⟨headerText header ++ preamble (titleOf outline) label start (anyDeprecated outline.entries) ++
    sourceLine ["pub const NS_BASE: &str = \"".toList, start, "\";".toList], ?_⟩
  simp only [render, labelled, given, namespaceConstants, labelLine, List.append_assoc]

/-- What follows the line of the label is read as the vocabulary exactly if no text that is given as a literal
holds a carriage return or needs too long a guard. -/
theorem read_back_iff (alphabet : Alphabet) {header : Option Text} {namespaceTerm : Bool} {outline : Outline}
    {label : Text} {start : Iri} (labelled : outline.label = some label)
    (given : outline.namespaceIri = some start) (letter : label.head?.any isAsciiLetter)
    (alphanumeric : ∀ c ∈ label, isAsciiAlphanumeric c = true)
    (plain : ∀ entry ∈ outline.entries, ∀ c ∈ entry.localName, c ≠ '"' ∧ c ≠ '\\' ∧ c ≠ '\n' ∧ c ≠ '\r')
    (identifiers : ∀ name ∈ constantNames outline.entries, alphabet.IsIdentifier name) :
    ∃ before, render header namespaceTerm outline = .ok (before ++ labelLine label ++
        body label (titleOf outline) namespaceTerm outline.entries) ∧
      (constantNames outline.entries).length = outline.entries.length ∧
      (alphabet.declarations? (body label (titleOf outline) namespaceTerm outline.entries) =
          some (declared label (titleOf outline) namespaceTerm outline.entries) ↔
        ∀ text ∈ literalTexts outline, '\r' ∉ text ∧ guardLength text ≤ 255) := by
  obtain ⟨capital, word⟩ := pascalCase_alphanumeric alphanumeric letter
  have identifier : alphabet.IsIdentifier (pascalCase label) :=
    identifier_of_ascii capital (by simpa [isWordCharacter] using fun c member => Or.inl (word c member))
  have plain : ∀ entry ∈ outline.entries, ∀ c ∈ entry.localName, c ≠ '"' ∧ c ≠ '\\' ∧ c ≠ '\r' :=
    fun entry member c inside =>
      have apart := plain entry member c inside
      ⟨apart.1, apart.2.1, apart.2.2.2⟩
  obtain ⟨before, rendered⟩ := exists_render_eq labelled given header namespaceTerm
  refine ⟨before, rendered, ?_, ?_⟩
  · exact length_constantNames outline.entries
  · rw [declarations?_body identifier identifiers plain]
    exact settled?_declared_iff

def asciiAlphabet : Alphabet where
  starts := isAsciiLetter
  continues := isWordCharacter
  starts_ascii _ _ := rfl
  continues_ascii _ _ := rfl
  starts_space c blank := by
    cases letter : isAsciiLetter c with
    | false => rfl
    | true =>
        have visible : isSpace c = false := alphanumeric_induction (P := fun c => isSpace c = false)
          (by decide +kernel) (by simp [isAsciiAlphanumeric, letter])
        rw [visible] at blank
        cases blank

def outlineWith (description : Text) : Outline :=
  ⟨none, none, some ['n'], some "u:n#".toList,
    [⟨['a'], none, some description, false, ⟨true, ['\n'], "use \\".toList⟩⟩]⟩

theorem constantNames_outlineWith (description : Text) :
    constantNames (outlineWith description).entries = ["DEPRECATED_A".toList] := by
  have capital : constantCase ['a'] = ['A'] := by decide +kernel
  simp [constantNames, freeNames, freeName, wantedName, baseName, outlineWith, capital]

theorem identifiers_outlineWith (description : Text) :
    ∀ name ∈ constantNames (outlineWith description).entries, asciiAlphabet.IsIdentifier name := by
  rw [constantNames_outlineWith]
  intro name member
  rw [List.mem_singleton.mp member]
  exact identifier_of_ascii (by decide) (by decide)

theorem plain_outlineWith (description : Text) : ∀ entry ∈ (outlineWith description).entries,
    ∀ c ∈ entry.localName, c ≠ '"' ∧ c ≠ '\\' ∧ c ≠ '\n' ∧ c ≠ '\r' := by
  simp [outlineWith]

theorem quotes_are_read_back :
    ∃ before after, render (some "// h".toList) true (outlineWith "\"#\n\\".toList) =
        .ok (before ++ labelLine ['n'] ++ after) ∧
      asciiAlphabet.declarations? after = some
        ⟨[⟨"DEPRECATED_A".toList, "NS_BASE".toList, ['a'], "\"#\n\\".toList, some (['\n'], "use \\".toList)⟩],
          ⟨['N'], "NO_TITLE".toList, true, ["DEPRECATED_A".toList]⟩⟩ := by
  have written : ∀ text ∈ literalTexts (outlineWith "\"#\n\\".toList),
      '\r' ∉ text ∧ guardLength text ≤ 255 := by
    decide +kernel
  have expected : declared ['n'] (titleOf (outlineWith "\"#\n\\".toList)) true
      (outlineWith "\"#\n\\".toList).entries =
        ⟨[⟨"DEPRECATED_A".toList, "NS_BASE".toList, ['a'], "\"#\n\\".toList, some (['\n'], "use \\".toList)⟩],
          ⟨['N'], "NO_TITLE".toList, true, ["DEPRECATED_A".toList]⟩⟩ := by
    decide +kernel
  obtain ⟨before, rendered, _, back⟩ := read_back_iff asciiAlphabet rfl rfl (by decide)
    (List.all_eq_true.mp (by decide)) (plain_outlineWith _) (identifiers_outlineWith "\"#\n\\".toList)
  exact ⟨before, _, rendered, expected ▸ back.mpr written⟩

theorem carriageReturn_is_not_read_back :
    (∀ name ∈ constantNames (outlineWith "a\rb".toList).entries, asciiAlphabet.IsIdentifier name) ∧
      (∃ before, render none false (outlineWith "a\rb".toList) = .ok (before ++ labelLine ['n'] ++
        body ['n'] "NO_TITLE".toList false (outlineWith "a\rb".toList).entries)) ∧
      asciiAlphabet.declarations? (body ['n'] "NO_TITLE".toList false (outlineWith "a\rb".toList).entries) =
        none := by
  have identifiers := identifiers_outlineWith "a\rb".toList
  have label : asciiAlphabet.IsIdentifier (pascalCase ['n']) := by
    have capital : pascalCase ['n'] = ['N'] := by decide +kernel
    rw [capital]
    exact identifier_of_ascii (by decide) (by decide)
  refine ⟨identifiers, exists_render_eq rfl rfl none false, ?_⟩
  · rw [declarations?_body label identifiers (by simp [outlineWith])]
    decide +kernel

end Termbase.TermModule
