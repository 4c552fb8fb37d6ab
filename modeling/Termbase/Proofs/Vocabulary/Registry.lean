import Termbase.Proofs.Iri.Split
import Termbase.Proofs.Search
import Termbase.Vocabulary.Registry

/-! The look-ups in the registry. A vocabulary is searched from its front and the index from its back, but no
term belongs to two vocabularies: where the identifier of a term is cut, its namespace ends. So all look-ups find the
same. -/

namespace Termbase

structure IsUndivided (name : Text) : Prop where
  sign : '#' ∉ name
  slash : '/' ∉ name
  colon : ':' ∉ name

theorem IsUndivided.fitsBehind {start name : Text} (undivided : IsUndivided name) (slash : '/' ∈ start) :
    FitsBehind start name :=
  ⟨undivided.sign, fun member => absurd member undivided.slash, fun _ => Or.inr slash,
    fun _ absent => absurd slash absent⟩

namespace Vocabulary

variable {vocabulary : Vocabulary} {iri term localName : Text}

theorem contains_iff : vocabulary.contains iri = true ↔ iri ∈ vocabulary.terms := by
  simp [contains]

theorem term?_eq_some_iff :
    vocabulary.term? localName = some term ↔
      vocabulary.contains term = true ∧ term = vocabulary.namespaceIri ++ localName := by
  have only : ∀ first ∈ vocabulary.terms, ∀ second ∈ vocabulary.terms,
      (Text.stripPrefix? vocabulary.namespaceIri first == some localName) = true →
      (Text.stripPrefix? vocabulary.namespaceIri second == some localName) = true → first = second := by
    intro first _ second _ firstFits secondFits
    rw [beq_iff_eq, Text.stripPrefix?_eq_some_iff] at firstFits secondFits
    rw [firstFits, secondFits]
  rw [term?, find?_eq_some_iff_of_unique only, contains_iff, beq_iff_eq, Text.stripPrefix?_eq_some_iff]

def IsCutBehind (vocabulary : Vocabulary) : Prop :=
  ∀ iri ∈ vocabulary.terms, (splitIri iri).1 = vocabulary.namespaceIri

theorem isCutBehind_of_undivided
    (alone : splitIri vocabulary.namespaceIri = (vocabulary.namespaceIri, []))
    (slash : '/' ∈ vocabulary.namespaceIri)
    (undivided : ∀ term ∈ vocabulary.named, IsUndivided term.localName) : vocabulary.IsCutBehind := by
  intro iri member
  rw [terms, List.mem_append] at member
  rcases member with isNamespace | isNamed
  · obtain rfl : iri = vocabulary.namespaceIri := by
      split at isNamespace
      · exact List.mem_singleton.mp isNamespace
      · cases isNamespace
    rw [alone]
  · obtain ⟨term, listed, rfl⟩ := List.mem_map.mp isNamed
    rw [iriOf, (splitIri_append_iff alone).mpr ((undivided term listed).fitsBehind slash)]

end Vocabulary

section Names

def lacksDelimiters (name : String) : Bool :=
  name.toByteArray.data.toList.all fun octet => octet != 35 && octet != 47 && octet != 58

theorem octet_mem {name : String} {c : Char} (ascii : c.toNat ≤ 127) (member : c ∈ name.toList) :
    UInt8.ofNat c.toNat ∈ name.toByteArray.data.toList := by
  rw [← String.ofList_toList (s := name), String.toByteArray_ofList, List.utf8Encode,
    List.toList_data_toByteArray, List.mem_flatMap]
  refine ⟨c, member, ?_⟩
  have small : c.val.toNat ≤ 127 := ascii
  simp only [String.utf8EncodeChar, small, if_true, List.mem_singleton]
  rfl

theorem isUndivided_toList {name : String} (checked : lacksDelimiters name = true) : IsUndivided name.toList := by
  simp only [lacksDelimiters, List.all_eq_true, Bool.and_eq_true, bne_iff_ne, ne_eq] at checked
  constructor
  · intro member
    exact (checked _ (octet_mem (by decide) member)).1.1 rfl
  · intro member
    exact (checked _ (octet_mem (by decide) member)).1.2 rfl
  · intro member
    exact (checked _ (octet_mem (by decide) member)).2 rfl

theorem isUndivided_namedTerms {table : List (String × String)}
    (checked : (table.all fun entry => lacksDelimiters entry.2) = true) :
    ∀ term ∈ Vocabulary.namedTerms table, IsUndivided term.localName := by
  intro term member
  obtain ⟨entry, listed, rfl⟩ := List.mem_map.mp member
  exact isUndivided_toList (List.all_eq_true.mp checked entry listed)

end Names

namespace Registry

open Vocabulary

theorem nodup_namespaces : (known.map (·.namespaceIri)).Nodup := by
  decide +kernel

theorem nodup_known : known.Nodup := nodup_namespaces.of_map _

theorem namespaces_alone : ∀ vocabulary ∈ known,
    splitIri vocabulary.namespaceIri = (vocabulary.namespaceIri, []) ∧ '/' ∈ vocabulary.namespaceIri := by
  decide +kernel

theorem undivided_names : ∀ vocabulary ∈ known, ∀ term ∈ vocabulary.named, IsUndivided term.localName := by
  -- The octets of a literal are at hand, while its characters would have to be decoded.
  simp only [known, List.forall_mem_cons, List.not_mem_nil, false_implies, implies_true, and_true]
  refine ⟨?rdf, ?rdfSchema, ?xmlSchema, ?owl, ?dublinCore, ?dublinCoreTerms, ?skos, ?foaf, ?music⟩
  all_goals exact isUndivided_namedTerms (by decide +kernel)

section Terms

variable {vocabulary other : Vocabulary} {iri term space : Text}

theorem isCutBehind_known (member : vocabulary ∈ known) : vocabulary.IsCutBehind :=
  have ⟨alone, slash⟩ := namespaces_alone vocabulary member
  isCutBehind_of_undivided alone slash (undivided_names vocabulary member)

theorem byNamespace?_eq_some_iff :
    byNamespace? space = some vocabulary ↔ vocabulary ∈ known ∧ vocabulary.namespaceIri = space :=
  find?_eq_some_iff_of_nodup nodup_namespaces

theorem byNamespace?_of_mem_terms (member : vocabulary ∈ known) (listed : iri ∈ vocabulary.terms) :
    byNamespace? (splitIri iri).1 = some vocabulary :=
  byNamespace?_eq_some_iff.mpr ⟨member, (isCutBehind_known member iri listed).symm⟩

theorem eq_of_mem_terms (member : vocabulary ∈ known) (listed : iri ∈ vocabulary.terms)
    (otherMember : other ∈ known) (otherListed : iri ∈ other.terms) : other = vocabulary := by
  have found := byNamespace?_of_mem_terms member listed
  rw [byNamespace?_of_mem_terms otherMember otherListed] at found
  exact Option.some.inj found

theorem mem_index : (iri, vocabulary) ∈ index ↔ vocabulary ∈ known ∧ iri ∈ vocabulary.terms := by
  simp only [index, List.mem_flatMap, List.mem_map, Prod.mk.injEq]
  constructor
  · rintro ⟨found, member, entry, listed, rfl, rfl⟩
    exact ⟨member, listed⟩
  · rintro ⟨member, listed⟩
    exact ⟨vocabulary, member, iri, listed, rfl, rfl⟩

theorem mem_allTerms : iri ∈ allTerms ↔ ∃ vocabulary ∈ known, iri ∈ vocabulary.terms :=
  List.mem_flatMap

theorem indexed?_eq_some_iff :
    indexed? iri = some (term, vocabulary) ↔
      term = iri ∧ vocabulary ∈ known ∧ iri ∈ vocabulary.terms := by
  -- The index may hold a term more than once, but always with the same vocabulary.
  have only : ∀ first ∈ index.reverse, ∀ second ∈ index.reverse, (first.1 == iri) = true →
      (second.1 == iri) = true → first = second := by
    rintro ⟨key, found⟩ firstMember ⟨otherKey, otherFound⟩ secondMember firstFits secondFits
    obtain rfl : key = iri := beq_iff_eq.mp firstFits
    obtain rfl : otherKey = key := beq_iff_eq.mp secondFits
    obtain ⟨member, listed⟩ := mem_index.mp (List.mem_reverse.mp firstMember)
    obtain ⟨otherMember, otherListed⟩ := mem_index.mp (List.mem_reverse.mp secondMember)
    rw [eq_of_mem_terms otherMember otherListed member listed]
  rw [indexed?, find?_eq_some_iff_of_unique only, List.mem_reverse, mem_index, beq_iff_eq]
  constructor
  · rintro ⟨owned, rfl⟩
    exact ⟨rfl, owned⟩
  · rintro ⟨rfl, owned⟩
    exact ⟨owned, rfl⟩

theorem lookup?_eq_some_iff : lookup? iri = some term ↔ term ∈ allTerms ∧ term = iri := by
  rw [lookup?, Option.map_eq_some_iff, mem_allTerms]
  constructor
  · rintro ⟨⟨key, vocabulary⟩, found, rfl⟩
    obtain ⟨rfl, member, listed⟩ := indexed?_eq_some_iff.mp found
    exact ⟨⟨vocabulary, member, listed⟩, rfl⟩
  · rintro ⟨⟨vocabulary, member, listed⟩, rfl⟩
    exact ⟨(term, vocabulary), indexed?_eq_some_iff.mpr ⟨rfl, member, listed⟩, rfl⟩

theorem vocabularyOf?_eq_some_iff :
    vocabularyOf? iri = some vocabulary ↔ vocabulary ∈ known ∧ vocabulary.contains iri = true := by
  rw [vocabularyOf?, Option.map_eq_some_iff, contains_iff]
  constructor
  · rintro ⟨⟨key, found⟩, indexed, rfl⟩
    exact (indexed?_eq_some_iff.mp indexed).2
  · intro owned
    exact ⟨(iri, vocabulary), indexed?_eq_some_iff.mpr ⟨rfl, owned⟩, rfl⟩

theorem filter_contains (member : vocabulary ∈ known) (contained : vocabulary.contains iri = true) :
    (known.filter fun other => other.contains iri) = [vocabulary] := by
  have only (other) (otherMember : other ∈ known) : other.contains iri = (other == vocabulary) := by
    rw [Bool.eq_iff_iff, beq_iff_eq]
    constructor
    · intro otherContains
      exact eq_of_mem_terms member (contains_iff.mp contained) otherMember (contains_iff.mp otherContains)
    · rintro rfl
      exact contained
  rw [List.filter_congr only, List.filter_beq, List.count_eq_one_of_mem nodup_known member,
    List.replicate_one]

theorem lookup?_eq_bind (iri : Iri) :
    lookup? iri = (byNamespace? (splitIri iri).1).bind fun vocabulary => vocabulary.term? (splitIri iri).2 := by
  apply Option.ext
  intro term
  rw [lookup?_eq_some_iff, mem_allTerms, Option.bind_eq_some_iff]
  constructor
  · rintro ⟨⟨vocabulary, member, listed⟩, rfl⟩
    refine ⟨vocabulary, byNamespace?_of_mem_terms member listed, ?_⟩
    rw [term?_eq_some_iff, ← isCutBehind_known member term listed, splitIri_append]
    exact ⟨contains_iff.mpr listed, rfl⟩
  · rintro ⟨vocabulary, found, isTerm⟩
    obtain ⟨member, space⟩ := byNamespace?_eq_some_iff.mp found
    obtain ⟨contained, shape⟩ := term?_eq_some_iff.mp isTerm
    rw [space, splitIri_append] at shape
    exact ⟨⟨vocabulary, member, contains_iff.mp contained⟩, shape⟩

end Terms

/-- The index agrees with the plain vocabularies on every text. A look-up finds exactly the listed terms, each as
itself, and finds the same as the look-up in two steps. The vocabulary of a text is the one that contains it, the
only entry of the registry that does, and the one whose namespace ends where the text is cut. In a vocabulary the
term of a local name is the listed text with that name behind the namespace. -/
theorem index_agrees_with_vocabularies (iri : Iri) :
    (∀ term, lookup? iri = some term ↔ term ∈ allTerms ∧ term = iri) ∧
    lookup? iri = (byNamespace? (splitIri iri).1).bind (fun vocabulary => vocabulary.term? (splitIri iri).2) ∧
    (∀ vocabulary, vocabularyOf? iri = some vocabulary ↔
      vocabulary ∈ known ∧ vocabulary.contains iri = true) ∧
    (∀ vocabulary, vocabularyOf? iri = some vocabulary →
      known.filter (fun other => other.contains iri) = [vocabulary] ∧
      byNamespace? (splitIri iri).1 = some vocabulary) ∧
    (∀ vocabulary ∈ known, ∀ localName term, vocabulary.term? localName = some term ↔
      vocabulary.contains term = true ∧ term = vocabulary.namespaceIri ++ localName) := by
  refine ⟨fun term => lookup?_eq_some_iff, lookup?_eq_bind iri, fun vocabulary => vocabularyOf?_eq_some_iff,
    ?_, fun vocabulary _ localName term => term?_eq_some_iff⟩
  intro vocabulary found
  obtain ⟨member, contained⟩ := vocabularyOf?_eq_some_iff.mp found
  exact ⟨filter_contains member contained, byNamespace?_of_mem_terms member (contains_iff.mp contained)⟩

/-- The namespace that is a term of its own has itself as its namespace and an empty local name. -/
theorem namespace_term_is_indexed : music ∈ known ∧ lookup? music.namespaceIri = some music.namespaceIri ∧
    vocabularyOf? music.namespaceIri = some music ∧ byNamespace? (splitIri music.namespaceIri).1 = some music ∧
    music.term? [] = some music.namespaceIri := by
  have member : music ∈ known := by simp [known]
  have contained : music.contains music.namespaceIri = true := contains_iff.mpr List.mem_cons_self
  obtain ⟨lookups, _, owners, places, terms⟩ := index_agrees_with_vocabularies music.namespaceIri
  have owner := (owners music).mpr ⟨member, contained⟩
  refine ⟨member, ?_, owner, (places music owner).2, ?_⟩
  · exact (lookups _).mpr ⟨mem_allTerms.mpr ⟨music, member, contains_iff.mp contained⟩, rfl⟩
  · exact (terms music member [] _).mpr ⟨contained, (List.append_nil _).symm⟩

end Registry

end Termbase
