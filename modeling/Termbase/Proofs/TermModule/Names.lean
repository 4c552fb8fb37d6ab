import Mathlib.Data.List.Infix
import Mathlib.Data.List.Nodup
import Mathlib.Data.List.Perm.Subperm
import Termbase.Ontology.Content
import Termbase.Proofs.Steps
import Termbase.Proofs.TermModule.Body

/-! The names that a generated module declares. Those of the terms never clash with each other; they clash with
the other names of the module exactly if a local name in capitals, or the label in camel case, is one of them. -/

namespace Termbase.TermModule

section Free

variable {taken names : List Text} {name : Text}

theorem ofNat_injective {first second : Nat} (same : Text.ofNat first = Text.ofNat second) : first = second := by
  have read (value : Nat) : Nat.ofDigitChars 10 (Text.ofNat value) 0 = value :=
    Nat.ofDigitChars_toDigits (by decide) (by decide)
  rw [← read first, same, read]

theorem numbered_injective (name : Text) : Function.Injective (numbered name) := by
  intro first second same
  exact ofNat_injective (List.append_cancel_left same)

theorem numberedFrom_least {count number : Nat}
    (free : ∃ step ≤ count, numbered name (number + step) ∉ taken) :
    ∃ step, numberedFrom taken name count number = numbered name (number + step) ∧
      numbered name (number + step) ∉ taken ∧ ∀ smaller < step, numbered name (number + smaller) ∈ taken := by
  induction count generalizing number with
  | zero =>
      obtain ⟨step, bounded, free⟩ := free
      cases Nat.le_zero.mp bounded
      exact ⟨0, rfl, free, nofun⟩
  | succ count ih =>
      rw [numberedFrom]
      split
      next isTaken =>
        have taken := List.contains_iff_mem.mp isTaken
        obtain ⟨step, bounded, free⟩ := free
        cases step with
        | zero => exact absurd taken free
        | succ step =>
            obtain ⟨last, found, isFree, below⟩ :=
              ih ⟨step, Nat.le_of_succ_le_succ bounded, by rwa [Nat.succ_add_eq_add_succ]⟩
            rw [Nat.succ_add_eq_add_succ] at found isFree
            refine ⟨last + 1, found, isFree, ?_⟩
            intro smaller bound
            cases smaller with
            | zero => exact taken
            | succ smaller =>
                rw [← Nat.succ_add_eq_add_succ]
                exact below smaller (Nat.lt_of_succ_lt_succ bound)
      next isFree => exact ⟨0, rfl, fun member => isFree (List.contains_iff_mem.mpr member), nofun⟩

/-- The numbers of one name are all different, so that only so many can be taken. -/
theorem count_le_of_numbered_mem {count number : Nat}
    (all : ∀ step < count, numbered name (number + step) ∈ taken) : count ≤ taken.length := by
  have within : (List.range count).map (fun step => numbered name (number + step)) ⊆ taken := by
    intro tried member
    obtain ⟨step, bounded, rfl⟩ := List.mem_map.mp member
    exact all step (List.mem_range.mp bounded)
  have different : ((List.range count).map fun step => numbered name (number + step)).Nodup :=
    List.Nodup.map (fun _ _ same => Nat.add_left_cancel (numbered_injective name same)) List.nodup_range
  have fewer := (List.subperm_of_subset different within).length_le
  rwa [List.length_map, List.length_range] at fewer

theorem exists_numbered_not_mem (taken : List Text) (name : Text) (number : Nat) :
    ∃ step ≤ taken.length, numbered name (number + step) ∉ taken := by
  by_contra all
  push Not at all
  have fewer : taken.length + 1 ≤ taken.length :=
    count_le_of_numbered_mem fun step bounded => all step (Nat.le_of_lt_succ bounded)
  exact absurd fewer (Nat.not_succ_le_self _)

theorem freeName_not_mem (taken : List Text) (name : Text) : freeName taken name ∉ taken := by
  unfold freeName
  split
  next =>
    obtain ⟨_, found, free, _⟩ := numberedFrom_least (exists_numbered_not_mem taken name 2)
    rwa [found]
  next isFree => exact fun member => isFree (List.contains_iff_mem.mpr member)

theorem freeName_eq_of_not_mem (free : name ∉ taken) : freeName taken name = name :=
  if_neg fun isTaken => free (List.contains_iff_mem.mp isTaken)

theorem freeName_eq (taken : List Text) (name : Text) :
    freeName taken name = name ∨ ∃ number, freeName taken name = numbered name number := by
  unfold freeName
  split
  next =>
    obtain ⟨_, found, _⟩ := numberedFrom_least (exists_numbered_not_mem taken name 2)
    exact Or.inr ⟨_, found⟩
  next => exact Or.inl rfl

theorem nodup_freeNames (taken names : List Text) :
    (freeNames taken names).Nodup ∧ ∀ name ∈ freeNames taken names, name ∉ taken := by
  induction names generalizing taken with
  | nil => simp [freeNames]
  | cons name names ih =>
      obtain ⟨different, apart⟩ := ih (freeName taken name :: taken)
      rw [freeNames, List.nodup_cons, List.forall_mem_cons]
      refine ⟨⟨?_, different⟩, freeName_not_mem taken name, ?_⟩
      · intro again
        exact apart _ again List.mem_cons_self
      · intro other member
        exact fun before => apart other member (List.mem_cons_of_mem _ before)

theorem mem_freeNames_of_mem (member : name ∈ names) (free : name ∉ taken) : name ∈ freeNames taken names := by
  induction names generalizing taken with
  | nil => cases member
  | cons first names ih =>
      rw [freeNames, List.mem_cons]
      by_cases given : name = freeName taken first
      · exact Or.inl given
      · refine Or.inr (ih ?_ ?_)
        · rcases List.mem_cons.mp member with rfl | later
          · exact absurd (freeName_eq_of_not_mem free).symm given
          · exact later
        · rw [List.mem_cons, not_or]
          exact ⟨given, free⟩

theorem wanted_or_numbered (member : name ∈ freeNames taken names) :
    ∃ wanted ∈ names, name = wanted ∨ ∃ number, name = numbered wanted number := by
  induction names generalizing taken with
  | nil => cases member
  | cons first names ih =>
      rcases List.mem_cons.mp member with rfl | later
      · exact ⟨first, List.mem_cons_self, freeName_eq taken first⟩
      · obtain ⟨wanted, inside, made⟩ := ih later
        exact ⟨wanted, List.mem_cons_of_mem _ inside, made⟩

end Free

section Decorated

variable {entries : List TermEntry} {name : Text}

/-- Nothing in the name is like what is added to the names of terms. -/
def IsUndecorated (name : Text) : Prop :=
  ¬ "DEPRECATED_".toList <+: name ∧ ¬ "_CLASS".toList <:+ name ∧ ¬ ['_', '_'] <:+: name

instance (name : Text) : Decidable (IsUndecorated name) := inferInstanceAs (Decidable (_ ∧ _))

theorem isUndecorated_of_not_mem (absent : '_' ∉ name) : IsUndecorated name := by
  refine ⟨?_, ?_, ?_⟩
  · exact fun begins => absent (begins.subset (by decide))
  · exact fun ends => absent (ends.subset (by decide))
  · exact fun inside => absent (inside.subset List.mem_cons_self)

theorem baseName_eq_iff (undecorated : IsUndecorated name) {entry : TermEntry} :
    baseName entry = name ↔ entry.deprecation.isMarked = false ∧ constantCase entry.localName = name := by
  unfold baseName
  cases entry.deprecation.isMarked with
  | false => simp
  | true =>
      constructor
      · rintro rfl
        exact absurd (List.prefix_append _ _) undecorated.1
      · rintro ⟨⟨⟩, _⟩

theorem baseName_of_wantedName (undecorated : IsUndecorated name) {entry : TermEntry}
    (wanted : wantedName entries entry = name) : baseName entry = name := by
  simp only [wantedName] at wanted
  split at wanted
  next => exact absurd ⟨_, wanted⟩ undecorated.2.1
  next => exact wanted

theorem mem_wantedNames {entry : TermEntry} (member : entry ∈ entries) :
    baseName entry ∈ entries.map (wantedName entries) := by
  by_cases shared : (entry.isClass && (propertyNames entries).contains (baseName entry)) = true
  · rw [Bool.and_eq_true, List.contains_iff_mem] at shared
    obtain ⟨property, inside, same⟩ := List.mem_map.mp shared.2
    obtain ⟨inside, notClass⟩ := List.mem_filter.mp inside
    refine List.mem_map.mpr ⟨property, inside, ?_⟩
    rw [← same, wantedName, if_neg]
    simp only [Bool.not_eq_true'] at notClass
    simp [notClass]
  · exact List.mem_map.mpr ⟨entry, member, by rw [wantedName, if_neg shared]⟩

theorem mem_constantNames_iff (undecorated : IsUndecorated name) :
    name ∈ constantNames entries ↔
      ∃ entry ∈ entries, entry.deprecation.isMarked = false ∧ constantCase entry.localName = name := by
  constructor
  · intro member
    obtain ⟨wanted, inside, rfl | ⟨number, rfl⟩⟩ := wanted_or_numbered member
    · obtain ⟨entry, listed, same⟩ := List.mem_map.mp inside
      exact ⟨entry, listed, (baseName_eq_iff undecorated).mp (baseName_of_wantedName undecorated same)⟩
    · exact absurd ⟨wanted, Text.ofNat number, rfl⟩ undecorated.2.2
  · rintro ⟨entry, member, spelled⟩
    apply mem_freeNames_of_mem _ List.not_mem_nil
    rw [← (baseName_eq_iff undecorated).mpr spelled]
    exact mem_wantedNames member

end Decorated

/-- The names that every module declares, besides its terms and its label. -/
def moduleNames : List Text :=
  ["NS_BASE".toList, "NS_PREFERRED_PREFIX".toList, "NAMESPACE".toList, "TERMS".toList]

def Declarations.names (declarations : Declarations) : List Text :=
  moduleNames ++ declarations.listing.label :: declarations.terms.map (·.name)

section Read

variable {label title : Text} {namespaceTerm : Bool} {entries : List TermEntry}

theorem names_zipWith {names : List Text} {entries : List TermEntry} (lengths : names.length = entries.length) :
    (names.zipWith constantOf entries).map (·.name) = names := by
  rw [List.map_zipWith, ← List.map_uncurry_zip_eq_zipWith]
  exact List.map_fst_zip (Nat.le_of_eq lengths)

theorem names_declared : (declared label title namespaceTerm entries).names =
    moduleNames ++ pascalCase label :: constantNames entries := by
  simp only [Declarations.names, declared, names_zipWith (length_constantNames entries)]

theorem name_of_settled? {constant settled : TermConstant} (read : constant.settled? = some settled) :
    settled.name = constant.name := by
  obtain ⟨documentation, _, read⟩ := Option.bind_eq_some_iff.mp read
  split at read
  next => rw [← Option.some.inj read]
  next =>
    obtain ⟨texts, _, rfl⟩ := Option.map_eq_some_iff.mp read
    rfl

theorem names_of_settledTerms? {terms settled : List TermConstant} (read : settledTerms? terms = some settled) :
    settled.map (·.name) = terms.map (·.name) := by
  induction terms generalizing settled with
  | nil =>
      cases read
      rfl
  | cons constant rest ih =>
      obtain ⟨first, firstRead, read⟩ := Option.bind_eq_some_iff.mp read
      obtain ⟨others, othersRead, rfl⟩ := Option.map_eq_some_iff.mp read
      rw [List.map_cons, List.map_cons, ih othersRead, name_of_settled? firstRead]

theorem names_of_settled? {declarations settled : Declarations} (read : declarations.settled? = some settled) :
    settled.names = declarations.names := by
  obtain ⟨terms, termsRead, read⟩ := Option.bind_eq_some_iff.mp read
  obtain ⟨listing, listingRead, rfl⟩ := Option.map_eq_some_iff.mp read
  obtain ⟨title, _, rfl⟩ := Option.map_eq_some_iff.mp listingRead
  simp only [Declarations.names, names_of_settledTerms? termsRead]

theorem nodup_names_iff :
    (declared label title namespaceTerm entries).names.Nodup ↔
      (∀ entry ∈ entries, entry.deprecation.isMarked = false → constantCase entry.localName ∉ moduleNames) ∧
      pascalCase label ∉ moduleNames ∧ pascalCase label ∉ constantNames entries := by
  have different : (constantNames entries).Nodup := (nodup_freeNames [] _).1
  have fixed : moduleNames.Nodup := by decide
  have undecorated : ∀ name ∈ moduleNames, IsUndecorated name := by decide
  have clash (name : Text) (member : name ∈ moduleNames) : name ∈ constantNames entries ↔
      ∃ entry ∈ entries, entry.deprecation.isMarked = false ∧ constantCase entry.localName = name :=
    mem_constantNames_iff (undecorated name member)
  have apart : (∀ name ∈ moduleNames, name ∉ constantNames entries) ↔
      ∀ entry ∈ entries, entry.deprecation.isMarked = false → constantCase entry.localName ∉ moduleNames := by
    constructor
    · intro apart entry inside unmarked member
      exact apart _ member ((clash _ member).mpr ⟨entry, inside, unmarked, rfl⟩)
    · intro apart name member inside
      obtain ⟨entry, listed, unmarked, rfl⟩ := (clash name member).mp inside
      exact apart entry listed unmarked member
  rw [names_declared, List.nodup_append', List.nodup_cons, List.disjoint_cons_right, ← apart]
  constructor
  · rintro ⟨_, ⟨labelApart, _⟩, labelNew, termsApart⟩
    exact ⟨fun name member inside => termsApart member inside, labelNew, labelApart⟩
  · rintro ⟨termsApart, labelNew, labelApart⟩
    exact ⟨fixed, ⟨labelApart, different⟩, labelNew, fun name member inside => termsApart name member inside⟩

end Read

/-- The module of an outline declares different names exactly if no term that is not deprecated has, in capitals,
a name that every module declares, and the label in camel case is neither one of these nor the name of a term.
The names of the terms alone are always different. Whoever reads the module finds these names. -/
theorem names_differ_iff {outline : Outline} {label : Text} {start : Iri}
    (labelled : outline.label = some label) (given : outline.namespaceIri = some start) (header : Option Text)
    (namespaceTerm : Bool) :
    ∃ before, render header namespaceTerm outline = .ok (before ++ labelLine label ++
        body label (titleOf outline) namespaceTerm outline.entries) ∧
      (constantNames outline.entries).Nodup ∧
      ((declared label (titleOf outline) namespaceTerm outline.entries).names.Nodup ↔
        (∀ entry ∈ outline.entries, entry.deprecation.isMarked = false →
          constantCase entry.localName ∉ moduleNames) ∧
        pascalCase label ∉ moduleNames ∧ pascalCase label ∉ constantNames outline.entries) ∧
      ('_' ∉ pascalCase label → (pascalCase label ∈ constantNames outline.entries ↔
        ∃ entry ∈ outline.entries, entry.deprecation.isMarked = false ∧
          constantCase entry.localName = pascalCase label)) ∧
      ∀ (alphabet : Alphabet) (found : Declarations), alphabet.IsIdentifier (pascalCase label) →
        (∀ name ∈ constantNames outline.entries, alphabet.IsIdentifier name) →
        (∀ entry ∈ outline.entries, ∀ c ∈ entry.localName, c ≠ '"' ∧ c ≠ '\\' ∧ c ≠ '\r') →
        alphabet.declarations? (body label (titleOf outline) namespaceTerm outline.entries) = some found →
        found.names = (declared label (titleOf outline) namespaceTerm outline.entries).names := by
  obtain ⟨before, rendered⟩ := exists_render_eq labelled given header namespaceTerm
  refine ⟨before, rendered, (nodup_freeNames [] _).1, nodup_names_iff, ?_, ?_⟩
  · intro absent
    exact mem_constantNames_iff (isUndecorated_of_not_mem absent)
  · intro alphabet found identifier identifiers plain read
    rw [declarations?_body identifier identifiers plain] at read
    exact names_of_settled? read

/-- A class and two properties want one name, and a deprecated term one of the module's. -/
def crowdedOutline : Outline :=
  ⟨none, none, some ['m', 'o'], some "u:m#".toList,
    [⟨['a'], none, none, true, .none⟩, ⟨['A'], none, none, false, .none⟩, ⟨['_', 'a'], none, none, false, .none⟩,
      ⟨"terms".toList, none, none, false, ⟨true, [], []⟩⟩]⟩

theorem crowded_names_differ :
    (declared ['m', 'o'] "NO_TITLE".toList true crowdedOutline.entries).names =
        moduleNames ++ ["Mo".toList, "A_CLASS".toList, "A".toList, "A__2".toList, "DEPRECATED_TERMS".toList] ∧
      (declared ['m', 'o'] "NO_TITLE".toList true crowdedOutline.entries).names.Nodup := by
  have names : (declared ['m', 'o'] "NO_TITLE".toList true crowdedOutline.entries).names = moduleNames ++
      ["Mo".toList, "A_CLASS".toList, "A".toList, "A__2".toList, "DEPRECATED_TERMS".toList] := by
    decide +kernel
  have labelled : crowdedOutline.label = some ['m', 'o'] := rfl
  obtain ⟨_, _, _, differ, _⟩ := names_differ_iff labelled rfl none true
  refine ⟨names, differ.mpr ⟨?_, ?_, ?_⟩⟩
  · decide +kernel
  · decide +kernel
  · decide +kernel

def termNamedTerms : Text :=
  "<u:n> a <http://www.w3.org/2002/07/owl#Ontology> ; ".toList ++
    "<http://purl.org/vocab/vann/preferredNamespaceUri> \"u:n#\" ; ".toList ++
    "<http://purl.org/vocab/vann/preferredNamespacePrefix> \"n\" .\n".toList ++
    "<u:n#terms> a <http://www.w3.org/2002/07/owl#Class> .\n".toList

def outlineOfTerms : Outline :=
  ⟨none, none, some ['n'], some "u:n#".toList, [⟨"terms".toList, none, none, true, .none⟩]⟩

theorem terms_are_declared_twice :
    ∃ content before found, Ontology.Content.read? .turtle (Utf8.encode termNamedTerms) = some content ∧
      content.graph.outline .source = .ok outlineOfTerms ∧
      render none false outlineOfTerms = .ok (before ++ labelLine ['n'] ++
        body ['n'] (titleOf outlineOfTerms) false outlineOfTerms.entries) ∧
      asciiAlphabet.declarations? (body ['n'] (titleOf outlineOfTerms) false outlineOfTerms.entries) =
        some found ∧
      found.names = moduleNames ++ [['N'], "TERMS".toList] ∧ ¬ found.names.Nodup := by
  have outlined : ((Ontology.Content.read? .turtle (Utf8.encode termNamedTerms)).bind fun content =>
      (content.graph.outline .source).toOption) = some outlineOfTerms := by
    decide +kernel
  obtain ⟨content, read, outlined⟩ := Option.bind_eq_some_iff.mp outlined
  have parsed : (asciiAlphabet.declarations? (body ['n'] (titleOf outlineOfTerms) false
      outlineOfTerms.entries)).map (·.names) = some (moduleNames ++ [['N'], "TERMS".toList]) := by
    decide +kernel
  obtain ⟨found, parsed, names⟩ := Option.map_eq_some_iff.mp parsed
  have labelled : outlineOfTerms.label = some ['n'] := rfl
  obtain ⟨before, rendered⟩ := exists_render_eq labelled rfl none false
  exact ⟨content, before, found, read, ok_of_toOption outlined, rendered, parsed, names,
    by rw [names]; decide⟩

end Termbase.TermModule
