import Mathlib.Data.List.Basic
import Termbase.Ontology.Content
import Termbase.Proofs.Steps
import Termbase.Proofs.TermModule.Body
import Termbase.Proofs.Text.Lines

/-! The beginning of a generated module: comments, the line that takes in the macros, and the two constants of
the namespace. Title, label and namespace are written into it as they are, so it has this form exactly if none of
them leaves the comment or the literal that it is written in. -/

namespace Termbase.TermModule

section Literal

/-- Nothing in the text has a meaning of its own in a literal. -/
def IsPlain (text : Text) : Prop := ∀ c ∈ text, c ≠ '"' ∧ c ≠ '\\' ∧ c ≠ '\r'

instance (text : Text) : Decidable (IsPlain text) :=
  List.decidableBAll (fun c => c ≠ '"' ∧ c ≠ '\\' ∧ c ≠ '\r') text

/-- The text up to a quote stands for the value: it is no shorter, and every quote in it is one of the value. -/
structure Stated (mode : Mode) (body value : Text) : Prop where
  quotes : body.count '"' ≤ value.count '"'
  length : value.length ≤ body.length
  plain : mode = .inside → value.length = body.length → value = body ∧ IsPlain body

def Closes (mode : Mode) (text value rest : Text) : Prop :=
  ∃ body, text = body ++ '"' :: rest ∧ Stated mode body value

namespace Closes

variable {mode later : Mode} {text value rest : Text}

theorem shorter (closes : Closes later text value rest) (written meant : Text)
    (quotes : written.count '"' ≤ meant.count '"') (fewer : meant.length < written.length) :
    Closes mode (written ++ text) (meant ++ value) rest := by
  obtain ⟨body, rfl, stated⟩ := closes
  have length := stated.length
  refine ⟨written ++ body, (List.append_assoc _ _ _).symm, ?_, ?_, ?_⟩
  · rw [List.count_append, List.count_append]
    exact Nat.add_le_add quotes stated.quotes
  · simp only [List.length_append]
    omega
  · intro _ same
    simp only [List.length_append] at same
    omega

theorem number (closes : Closes .inside text value rest) (digits number : Nat) (meant : Char) :
    Closes (.number digits number) ('\x7d' :: text) (meant :: value) rest := by
  obtain ⟨body, rfl, stated⟩ := closes
  refine ⟨'\x7d' :: body, rfl, ?_, Nat.succ_le_succ stated.length, nofun⟩
  have quotes := stated.quotes
  rw [List.count_cons_of_ne (by decide), List.count_cons]
  omega

theorem plain (closes : Closes .inside text value rest) {c : Char} (plain : c ≠ '"' ∧ c ≠ '\\' ∧ c ≠ '\r') :
    Closes mode (c :: text) (c :: value) rest := by
  obtain ⟨body, rfl, stated⟩ := closes
  refine ⟨c :: body, rfl, ?_, Nat.succ_le_succ stated.length, ?_⟩
  · rw [List.count_cons, List.count_cons]
    exact Nat.add_le_add_right stated.quotes _
  · intro _ same
    obtain ⟨rfl, rest⟩ := stated.plain rfl (Nat.succ.inj same)
    exact ⟨rfl, List.forall_mem_cons.mpr ⟨plain, rest⟩⟩

end Closes

theorem count_quote_of_escapedChar? {escape meant : Char} (found : escapedChar? escape = some meant) :
    ['\\', escape].count '"' ≤ [meant].count '"' := by
  by_cases quote : escape = '"'
  · subst quote
    cases found
    decide
  · simp [quote]

theorem count_quote_of_asciiChar? {high low meant : Char} (found : asciiChar? high low = some meant) :
    ['\\', 'x', high, low].count '"' ≤ [meant].count '"' := by
  have none : hexDigit? '"' = none := by decide
  have highDigit : high ≠ '"' := by
    rintro rfl
    simp [asciiChar?, none] at found
  have lowDigit : low ≠ '"' := by
    rintro rfl
    cases digit : hexDigit? high <;> simp [asciiChar?, none, digit] at found
  simp [highDigit, lowDigit]

theorem closes_of_plainBody {mode : Mode} {text value rest : Text}
    (read : plainBody mode text = some (value, rest)) : Closes mode text value rest := by
  fun_induction plainBody mode text generalizing value rest with
  | case1 => cases read
  | case2 digits number text _ ih =>
      obtain ⟨⟨value, rest⟩, inner, ⟨⟩⟩ := Option.map_eq_some_iff.mp read
      exact (ih inner).number digits number _
  | case3 => cases read
  | case4 digits number c text _ underscore ih =>
      obtain ⟨rfl, _⟩ := underscore
      exact (ih read).shorter ['_'] [] (by decide) (by decide)
  | case5 digits number c text _ _ digit isDigit _ ih =>
      have notQuote : c ≠ '"' := by
        rintro rfl
        cases isDigit
      exact (ih read).shorter [c] [] (by simp [notQuote]) (by simp)
  | case6 => cases read
  | case7 => cases read
  | case8 mode c text _ skipped ih =>
      have notQuote : c ≠ '"' := by
        rintro rfl
        cases skipped.2
      exact (ih read).shorter [c] [] (by simp [notQuote]) (by simp)
  | case9 =>
      cases read
      exact ⟨[], rfl, Nat.le_refl _, Nat.le_refl _, fun _ _ => ⟨rfl, by simp [IsPlain]⟩⟩
  | case10 mode _ text _ _ ih =>
      obtain ⟨⟨value, rest⟩, inner, ⟨⟩⟩ := Option.map_eq_some_iff.mp read
      exact (ih inner).shorter ['\r', '\n'] ['\n'] (by decide) (by decide)
  | case11 => cases read
  | case12 mode _ text _ _ _ ih => exact (ih read).shorter ['\\', '\n'] [] (by decide) (by decide)
  | case13 mode _ text _ _ _ ih => exact (ih read).shorter ['\\', '\r', '\n'] [] (by decide) (by decide)
  | case14 mode _ text _ _ _ ih => exact (ih read).shorter ['\\', 'u', '\x7b'] [] (by decide) (by decide)
  | case15 mode _ high low text _ _ _ ih =>
      obtain ⟨meant, found, read⟩ := Option.bind_eq_some_iff.mp read
      obtain ⟨⟨value, rest⟩, inner, ⟨⟩⟩ := Option.map_eq_some_iff.mp read
      exact (ih inner).shorter ['\\', 'x', high, low] [meant] (count_quote_of_asciiChar? found) (by simp)
  | case16 mode _ escape text _ _ _ _ _ _ _ ih =>
      obtain ⟨meant, found, read⟩ := Option.bind_eq_some_iff.mp read
      obtain ⟨⟨value, rest⟩, inner, ⟨⟩⟩ := Option.map_eq_some_iff.mp read
      exact (ih inner).shorter ['\\', escape] [meant] (count_quote_of_escapedChar? found) (by simp)
  | case17 => cases read
  | case18 mode c text _ _ notQuote notReturn notBackslash ih =>
      obtain ⟨⟨value, rest⟩, inner, ⟨⟩⟩ := Option.map_eq_some_iff.mp read
      exact (ih inner).plain ⟨notQuote, notBackslash, notReturn⟩

theorem plainBody_eq_self_iff {text tail rest : Text} :
    plainBody .inside (text ++ '"' :: tail) = some (text, rest) ↔ IsPlain text ∧ rest = tail := by
  constructor
  · intro read
    obtain ⟨body, split, stated⟩ := closes_of_plainBody read
    rcases List.append_eq_append_iff.mp split with ⟨more, rfl, after⟩ | ⟨more, rfl, after⟩
    · cases more with
      | nil =>
          cases after
          rw [List.append_nil] at stated
          exact ⟨(stated.plain rfl rfl).2, rfl⟩
      | cons c more =>
          -- The quote behind the text would be one of its own.
          cases after
          have quotes := stated.quotes
          simp only [List.count_append, List.count_cons_self] at quotes
          omega
    · cases more with
      | nil =>
          cases after
          rw [List.append_nil] at stated
          exact ⟨by simpa using (stated.plain rfl rfl).2, rfl⟩
      | cons c more =>
          have length := stated.length
          simp only [List.length_append, List.length_cons] at length
          omega
  · rintro ⟨plain, rfl⟩
    have noQuote : '"' ∉ text := fun member => (plain _ member).1 rfl
    have noBackslash : '\\' ∉ text := fun member => (plain _ member).2.1 rfl
    have noReturn : '\r' ∉ text := fun member => (plain _ member).2.2 rfl
    have read := plainBody_escapedBackslashes noQuote rest
    rwa [escapedBackslashes_eq noBackslash, settled?_eq_some noReturn] at read

end Literal

section Comment

def isComment (line : Text) : Bool := "//!".toList.isPrefixOf line && !line.contains '\r'

def isQuiet (line : Text) : Bool := isComment line || line.all isSpace

def loud (lines : List Text) : List Text := lines.filter fun line => !isQuiet line

/-- Behind the beginning of a comment the text makes quiet lines only. -/
def goesOn (text : Text) : Bool :=
  match Text.pieces text with
  | [] => true
  | first :: others => !(Text.dropCarriageReturn first).contains '\r' &&
      others.all fun line => isQuiet (Text.dropCarriageReturn line)

/-- The first line of the text has no carriage return, the last one is a comment, and those in between are
quiet. -/
def isConfined (text : Text) : Bool :=
  match Text.splitAtLineFeeds text with
  | ([], last) => !last.contains '\r'
  | (first :: others, last) => !(Text.dropCarriageReturn first).contains '\r' &&
      (others.all fun line => isQuiet (Text.dropCarriageReturn line)) && isComment last

theorem isComment_iff {line : Text} : isComment line = true ↔ "//!".toList <+: line ∧ '\r' ∉ line := by
  rw [isComment, Bool.and_eq_true, List.isPrefixOf_iff_prefix]
  simp

theorem loud_eq_nil_iff {lines : List Text} : loud lines = [] ↔ lines.all isQuiet = true := by
  rw [loud, List.filter_eq_nil_iff, List.all_eq_true]
  simp

theorem pieces_append_of_unbroken {line next first : Text} {others : List Text} (unbroken : '\n' ∉ line)
    (split : Text.pieces next = first :: others) : Text.pieces (line ++ next) = (line ++ first) :: others := by
  induction line with
  | nil => exact split
  | cons c line ih =>
      rw [List.mem_cons, not_or] at unbroken
      exact Text.pieces_cons (Ne.symm unbroken.1) (ih unbroken.2)

section Seam

/-- What is written behind a text: neither blank nor the rest of a mark for comments. -/
structure IsSeam (seam : Text) : Prop where
  unbroken : '\n' ∉ seam
  unreturned : '\r' ∉ seam
  visible : seam.all isSpace = false
  apart : (seam.head?.any fun c => c ≠ '/' && c ≠ '!') = true

variable {seam : Text}

theorem opens_seam (isSeam : IsSeam seam) (line rest : Text) :
    "//!".toList.isPrefixOf (line ++ (seam ++ rest)) = "//!".toList.isPrefixOf line := by
  have apart := isSeam.apart
  cases seam with
  | nil => cases apart
  | cons c seam =>
      simp only [List.head?_cons, Option.any_some, Bool.and_eq_true, decide_eq_true_eq] at apart
      match line with
      | [] => simp [List.isPrefixOf, Ne.symm apart.1]
      | [first] => simp [List.isPrefixOf, Ne.symm apart.1]
      | [first, second] => simp [List.isPrefixOf, Ne.symm apart.2]
      | first :: second :: third :: line => simp [List.isPrefixOf]

theorem dropCarriageReturn_seam (isSeam : IsSeam seam) (line rest : Text) :
    Text.dropCarriageReturn (line ++ (seam ++ rest)) = line ++ (seam ++ Text.dropCarriageReturn rest) := by
  have more : seam ++ rest ≠ [] := by
    intro none
    have apart := isSeam.apart
    rw [(List.append_eq_nil_iff.mp none).1] at apart
    cases apart
  rw [Text.dropCarriageReturn_append_of_ne_nil more, Text.dropCarriageReturn_append isSeam.unreturned]

theorem isQuiet_seam (isSeam : IsSeam seam) (line rest : Text) :
    isQuiet (Text.dropCarriageReturn (line ++ (seam ++ rest))) =
      (isComment line && !(Text.dropCarriageReturn rest).contains '\r') := by
  have notBlank : (line ++ (seam ++ Text.dropCarriageReturn rest)).all isSpace = false := by
    simp only [List.all_append, isSeam.visible, Bool.false_and, Bool.and_false]
  rw [dropCarriageReturn_seam isSeam, isQuiet, notBlank, Bool.or_false, isComment, isComment, opens_seam isSeam]
  simp [isSeam.unreturned, Bool.and_assoc]

theorem goesOn_seam (isSeam : IsSeam seam) (text next : Text) :
    goesOn (text ++ (seam ++ next)) = (isConfined text && goesOn next) := by
  obtain ⟨first, others, split⟩ := Text.exists_pieces next
  have joined := Text.pieces_append text (pieces_append_of_unbroken isSeam.unbroken split)
  rw [goesOn, goesOn, joined, split, isConfined]
  rcases Text.splitAtLineFeeds text with ⟨_ | ⟨line, lines⟩, last⟩
  · simp [dropCarriageReturn_seam isSeam, isSeam.unreturned, Bool.and_assoc]
  · simp only [List.cons_append, List.all_append, List.all_cons, isQuiet_seam isSeam, Bool.and_assoc]

end Seam

section Opening

variable {opening : Text}

theorem isQuiet_append (opened : isComment opening = true) (rest : Text) :
    isQuiet (opening ++ rest) = !rest.contains '\r' := by
  obtain ⟨⟨more, rfl⟩, unreturned⟩ := isComment_iff.mp opened
  have begins : "//!".toList.isPrefixOf ("//!".toList ++ more ++ rest) = true := rfl
  have notBlank : ("//!".toList ++ more ++ rest).all isSpace = false := rfl
  have absent : '\r' ∉ more := fun member => unreturned (List.mem_append_right _ member)
  rw [isQuiet, isComment, begins, notBlank]
  simp [absent]

theorem loud_pieces_eq_nil_iff (unbroken : '\n' ∉ opening) (opened : isComment opening = true) (text : Text) :
    loud ((Text.pieces (opening ++ text)).map Text.dropCarriageReturn) = [] ↔ goesOn text = true := by
  obtain ⟨first, others, split⟩ := Text.exists_pieces text
  have unreturned := (isComment_iff.mp opened).2
  rw [loud_eq_nil_iff, goesOn, split, pieces_append_of_unbroken unbroken split, List.map_cons, List.all_cons,
    Text.dropCarriageReturn_append unreturned, isQuiet_append opened, List.all_map]
  rfl

end Opening

end Comment

section Preamble

def useLine (deprecations : Bool) : Text :=
  "use crate::\x7bnamed_node, ".toList ++ (if deprecations then "named_node_deprecated, ".toList else []) ++
    "vocabulary\x7d;".toList

def lastLines (deprecations : Bool) : Text :=
  sourceLine ["//! vocabulary.".toList] ++ (sourceLine [] ++
    (sourceLine ["use crate::\x7bnamed_node, ".toList,
      (if deprecations then "named_node_deprecated, ".toList else []), "vocabulary\x7d;".toList] ++ sourceLine []))

theorem preamble_eq (title label namespaceIri : Text) (deprecations : Bool) :
    preamble title label namespaceIri deprecations =
      sourceLine ["//! [".toList, title, " (".toList, label.map asciiUpper, ")](".toList] ++
        (sourceLine ["//! ".toList, namespaceIri, ")".toList] ++ lastLines deprecations) := by
  simp only [preamble, lastLines, List.append_assoc]

theorem loud_lastLines (deprecations : Bool) :
    loud (Text.lines (lastLines deprecations)) = [useLine deprecations] := by
  cases deprecations with
  | false => decide +kernel
  | true => decide +kernel

theorem loud_sourceLine (parts : List Text) (rest : Text) :
    loud (Text.lines (sourceLine parts ++ rest)) =
      loud ((Text.pieces parts.flatten).map Text.dropCarriageReturn) ++ loud (Text.lines rest) := by
  have feed : sourceLine parts ++ rest = parts.flatten ++ '\n' :: rest := by simp [sourceLine]
  rw [feed, Text.lines_append_feed]
  exact List.filter_append _ _

theorem loud_preamble (title label namespaceIri : Text) (deprecations : Bool) :
    loud (Text.lines (preamble title label namespaceIri deprecations)) = [useLine deprecations] ↔
      isConfined title = true ∧ isConfined (label.map asciiUpper) = true ∧ isConfined namespaceIri = true := by
  have between : IsSeam " (".toList := ⟨by decide, by decide, by decide, by decide⟩
  have behindLabel : IsSeam ")](".toList := ⟨by decide, by decide, by decide, by decide⟩
  have behindStart : IsSeam ")".toList := ⟨by decide, by decide, by decide, by decide⟩
  have ended : goesOn [] = true := rfl
  rw [preamble_eq, loud_sourceLine, loud_sourceLine, loud_lastLines, ← List.append_assoc,
    List.append_left_eq_self, List.append_eq_nil_iff]
  simp only [List.flatten_cons, List.flatten_nil]
  rw [loud_pieces_eq_nil_iff (by decide) (by decide), loud_pieces_eq_nil_iff (by decide) (by decide),
    goesOn_seam between, goesOn_seam behindLabel, goesOn_seam behindStart]
  simp only [ended, Bool.and_true, Bool.and_eq_true, and_assoc]

end Preamble

section Constants

def constantStart (name : Text) : Text := "pub const ".toList ++ name ++ ": &str = \"".toList

def readStringConstant? (name text : Text) : Option (Text × Text) :=
  (Text.stripPrefix? (constantStart name) text).bind fun text =>
    (plainBody .inside text).bind fun read => (Text.stripPrefix? [';', '\n'] read.2).map (read.1, ·)

theorem readStringConstant?_eq_some_iff {name value tail rest : Text} :
    readStringConstant? name (constantStart name ++ (value ++ '"' :: ';' :: '\n' :: tail)) = some (value, rest) ↔
      IsPlain value ∧ rest = tail := by
  have start : Text.stripPrefix? (constantStart name)
      (constantStart name ++ (value ++ '"' :: ';' :: '\n' :: tail)) = some (value ++ '"' :: ';' :: '\n' :: tail) :=
    Text.stripPrefix?_eq_some_iff.mpr rfl
  rw [readStringConstant?, start, Option.bind_some]
  constructor
  · intro read
    obtain ⟨⟨found, behind⟩, body, ended⟩ := Option.bind_eq_some_iff.mp read
    obtain ⟨after, ending, ⟨⟩⟩ := Option.map_eq_some_iff.mp ended
    obtain ⟨plain, rfl⟩ := plainBody_eq_self_iff.mp body
    simp only [Text.stripPrefix?, if_true, Option.some.injEq] at ending
    exact ⟨plain, ending.symm⟩
  · rintro ⟨plain, rfl⟩
    rw [plainBody_eq_self_iff.mpr ⟨plain, rfl⟩]
    rfl

theorem namespaceConstants_eq (label namespaceIri rest : Text) :
    namespaceConstants label namespaceIri ++ rest =
      constantStart "NS_BASE".toList ++ (namespaceIri ++ '"' :: ';' :: '\n' ::
        (constantStart "NS_PREFERRED_PREFIX".toList ++ (label ++ '"' :: ';' :: '\n' :: rest))) := by
  have base : "pub const NS_BASE: &str = \"".toList = constantStart "NS_BASE".toList := by decide
  have preferred : "pub const NS_PREFERRED_PREFIX: &str = \"".toList =
      constantStart "NS_PREFERRED_PREFIX".toList := by
    decide
  have ending : "\";".toList = ['"', ';'] := by decide
  simp only [namespaceConstants, sourceLine, base, preferred, ending, List.flatten_cons, List.flatten_nil,
    List.append_assoc, List.cons_append, List.nil_append]

end Constants

/-- A module without a header begins with comments, blank lines and the line that takes in the macros exactly if
title, label and namespace stay within the comment. Its two constants have the namespace and the label for values
exactly if these have no quote, backslash or carriage return. -/
theorem preamble_holds_iff {outline : Outline} {label : Text} {start : Iri} (labelled : outline.label = some label)
    (given : outline.namespaceIri = some start) (namespaceTerm : Bool) :
    render none namespaceTerm outline =
        .ok (preamble (titleOf outline) label start (anyDeprecated outline.entries) ++
          (namespaceConstants label start ++ body label (titleOf outline) namespaceTerm outline.entries)) ∧
      (loud (Text.lines (preamble (titleOf outline) label start (anyDeprecated outline.entries))) =
          [useLine (anyDeprecated outline.entries)] ↔
        isConfined (titleOf outline) = true ∧ isConfined (label.map asciiUpper) = true ∧
          isConfined start = true) ∧
      ((∃ behind rest, readStringConstant? "NS_BASE".toList (namespaceConstants label start ++
            body label (titleOf outline) namespaceTerm outline.entries) = some (start, behind) ∧
          readStringConstant? "NS_PREFERRED_PREFIX".toList behind = some (label, rest)) ↔
        IsPlain start ∧ IsPlain label) := by
  refine ⟨?_, loud_preamble _ _ _ _, ?_⟩
  · simp only [render, labelled, given, headerText, List.nil_append, List.append_assoc]
  · rw [namespaceConstants_eq]
    constructor
    · rintro ⟨behind, rest, readStart, readLabel⟩
      obtain ⟨plainStart, rfl⟩ := readStringConstant?_eq_some_iff.mp readStart
      exact ⟨plainStart, (readStringConstant?_eq_some_iff.mp readLabel).1⟩
    · rintro ⟨plainStart, plainLabel⟩
      exact ⟨_, _, readStringConstant?_eq_some_iff.mpr ⟨plainStart, rfl⟩,
        readStringConstant?_eq_some_iff.mpr ⟨plainLabel, rfl⟩⟩

def commentedOutline : Outline :=
  ⟨some "a\r\n \n//! b".toList, none, some ['n', '\''], some "u:n#\n//! ".toList, []⟩

theorem comments_stay_comments :
    loud (Text.lines (preamble "a\r\n \n//! b".toList ['n', '\''] "u:n#\n//! ".toList false)) = [useLine false] ∧
      ∃ behind rest, readStringConstant? "NS_BASE".toList (namespaceConstants ['n', '\''] "u:n#\n//! ".toList ++
          body ['n', '\''] "a\r\n \n//! b".toList false []) = some ("u:n#\n//! ".toList, behind) ∧
        readStringConstant? "NS_PREFERRED_PREFIX".toList behind = some (['n', '\''], rest) := by
  have labelled : commentedOutline.label = some ['n', '\''] := rfl
  have plain : IsPlain "u:n#\n//! ".toList ∧ IsPlain ['n', '\''] := by decide
  obtain ⟨_, quiet, read⟩ := preamble_holds_iff labelled rfl false
  exact ⟨quiet.mpr (by decide), read.mpr plain⟩

def brokenTitle : Text :=
  "<u:n> a <http://www.w3.org/2002/07/owl#Ontology> ; ".toList ++
    "<http://purl.org/dc/terms/title> \"a\\nb\" ; ".toList ++
    "<http://purl.org/vocab/vann/preferredNamespaceUri> \"c:\\\\n#\" ; ".toList ++
    "<http://purl.org/vocab/vann/preferredNamespacePrefix> \"n\" .\n".toList

def brokenOutline : Outline := ⟨some "a\nb".toList, none, some ['n'], some "c:\\n#".toList, []⟩

theorem title_leaves_comment :
    ∃ content, Ontology.Content.read? .turtle (Utf8.encode brokenTitle) = some content ∧
      content.graph.outline .source = .ok brokenOutline ∧
      render none false brokenOutline = .ok (preamble "a\nb".toList ['n'] "c:\\n#".toList false ++
        (namespaceConstants ['n'] "c:\\n#".toList ++ body ['n'] "a\nb".toList false [])) ∧
      loud (Text.lines (preamble "a\nb".toList ['n'] "c:\\n#".toList false)) =
        ["b (N)](".toList, useLine false] ∧
      ∃ behind, readStringConstant? "NS_BASE".toList (namespaceConstants ['n'] "c:\\n#".toList ++
          body ['n'] "a\nb".toList false []) = some ("c:\n#".toList, behind) := by
  have outlined : ((Ontology.Content.read? .turtle (Utf8.encode brokenTitle)).bind fun content =>
      (content.graph.outline .source).toOption) = some brokenOutline := by
    decide +kernel
  obtain ⟨content, read, outlined⟩ := Option.bind_eq_some_iff.mp outlined
  have misread : (readStringConstant? "NS_BASE".toList (namespaceConstants ['n'] "c:\\n#".toList ++
      body ['n'] "a\nb".toList false [])).map (·.1) = some "c:\n#".toList := by
    decide +kernel
  obtain ⟨⟨_, behind⟩, misread, rfl⟩ := Option.map_eq_some_iff.mp misread
  refine ⟨content, read, ok_of_toOption outlined, ?_, by decide +kernel, behind, misread⟩
  simp only [brokenOutline, render, titleOf, headerText, anyDeprecated, List.any_nil, Option.getD_some,
    List.nil_append, List.append_assoc]

end Termbase.TermModule
