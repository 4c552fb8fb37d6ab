import Mathlib.Data.List.Nodup
import Termbase.Proofs.Dictionary.Placing
import Termbase.Proofs.Json.StringMembers
import Termbase.Proofs.Text.Hex

/-! Which texts are dictionaries: the objects of hexadecimal forms, of which each key keeps the last. -/

namespace Termbase

open Json

theorem Code.read_eq_ok_iff {tokens rest : List Token} {code : Code} :
    Code.read tokens = .ok (code, rest) ↔
      ∃ digits, Hex.IsForm digits ∧ tokens = .string digits :: rest ∧ code = Code.ofDigits digits := by
  constructor
  · intro read
    unfold Code.read at read
    obtain ⟨⟨digits, left⟩, string, decoded⟩ := bind_eq_ok_iff.mp read
    unfold readString at string
    split at string
    next =>
      cases string
      dsimp only at decoded
      split at decoded
      next found =>
        cases decoded
        obtain ⟨form, rfl⟩ := Code.ofHex_eq_ok_iff.mp found
        exact ⟨_, form, rfl, rfl⟩
      next => cases decoded
    next => cases string
  · rintro ⟨digits, form, rfl, rfl⟩
    have decoded := Code.ofHex_eq_ok_iff.mpr ⟨form, Eq.refl (Code.ofDigits digits)⟩
    simp only [Code.read, readString, bind, Except.bind, decoded]
    rfl

namespace Dictionary

def coded (member : Text × Text) : Text × Code := (member.1, Code.ofDigits member.2)

theorem takesStrings_readEntry :
    TakesStrings readEntry Hex.IsForm fun entries member => place (coded member).1 (coded member).2 entries := by
  intro entries key tokens next rest
  constructor
  · intro read
    unfold readEntry readMember at read
    obtain ⟨⟨code, left⟩, member, result⟩ := bind_eq_ok_iff.mp read
    obtain ⟨value, colon, string⟩ := bind_eq_ok_iff.mp member
    unfold expectColon at colon
    split at colon
    next =>
      cases colon
      obtain ⟨digits, form, rfl, rfl⟩ := Code.read_eq_ok_iff.mp string
      cases result
      exact ⟨digits, form, rfl, rfl⟩
    next => cases colon
  · rintro ⟨digits, form, rfl, rfl⟩
    have read := Code.read_eq_ok_iff.mpr ⟨digits, form, Eq.refl (.string digits :: rest), rfl⟩
    simp only [readEntry, readMember, expectColon, bind, Except.bind, read]
    rfl

theorem readText_eq_ok_iff {text : Text} {entries : List (Text × Code)} :
    readText readEntries text = .ok entries ↔
      ∃ members : List (Text × Text), IsObject (members.map asString) text ∧
        (∀ member ∈ members, Hex.IsForm member.2) ∧ entries = placed (members.map coded) := by
  have folded (members : List (Text × Text)) : placed (members.map coded) =
      members.foldl (fun entries member => place (coded member).1 (coded member).2 entries) [] := by
    rw [placed, List.foldl_map]
  constructor
  · intro read
    unfold readText at read
    obtain ⟨⟨found, rest⟩, body, result⟩ := bind_eq_ok_iff.mp read
    unfold readEntries at body
    split at body
    next inside opened =>
      obtain ⟨members, forms, rfl, rfl⟩ := (readObjectBody_eq_ok_iff takesStrings_readEntry).mp body
      cases rest with
      | nil =>
          cases result
          exact ⟨members, tokens_eq_objectTokens_iff.mp opened, forms, (folded members).symm⟩
      | cons token rest => cases result
    next => cases body
  · rintro ⟨members, object, forms, rfl⟩
    have body : readObjectBody readEntry [] (separated (members.map stringMember) ++ [.closeBrace]) =
        .ok (placed (members.map coded), []) :=
      (readObjectBody_eq_ok_iff takesStrings_readEntry).mpr ⟨members, forms, rfl, folded members⟩
    rw [readText, tokens_eq_objectTokens_iff.mpr object]
    simp only [objectTokens, readEntries, bind, Except.bind, body]
    rfl

theorem forms_of_readText {members : List (Text × Option Text)} {text : Text} {entries : List (Text × Code)}
    (object : IsObject members text) (read : readText readEntries text = .ok entries) :
    ∀ member ∈ members, ∃ digits, member.2 = some digits ∧ Hex.IsForm digits := by
  unfold readText at read
  obtain ⟨⟨found, rest⟩, body, _⟩ := bind_eq_ok_iff.mp read
  unfold readEntries at body
  split at body
  next inside opened => exact fits_of_readObjectBody takesStrings_readEntry object opened body
  next => cases body

section Acceptance

variable {text : Text} {dictionary : Dictionary} {members : List (Text × Text)}

def lastDigits? (members : List (Text × Text)) (key : Text) : Option Text := members.reverse.lookup key

theorem lookup_coded (members : List (Text × Text)) (key : Text) :
    (members.map coded).lookup key = (members.lookup key).map Code.ofDigits := by
  induction members with
  | nil => rfl
  | cons member members ih =>
      rw [List.map_cons, lookup_cons, lookup_cons, ih, coded]
      split <;> rfl

theorem mem_placed_coded_iff {iri : Iri} {code : Code} :
    (iri, code) ∈ placed (members.map coded) ↔
      ∃ digits, lastDigits? members iri = some digits ∧ Code.ofDigits digits = code := by
  rw [mem_placed_iff, ← List.map_reverse, lookup_coded, Option.map_eq_some_iff]
  rfl

theorem ofJson_eq_ok_iff :
    ofJson text = .ok dictionary ↔ readText readEntries text = .ok dictionary.entries ∧
      ∀ entry ∈ dictionary.entries, Iri.checkAbsolute entry.1 = .ok () := by
  unfold ofJson
  cases read : readText readEntries text with
  | error error => simp
  | ok entries =>
      obtain ⟨members, _, _, rfl⟩ := readText_eq_ok_iff.mp read
      have unique := nodup_keys_of_pairwise (placed_pairwise (members.map coded))
      dsimp only
      rw [insertValid_eq_ok_iff (by simpa [empty] using unique), Except.ok.injEq]
      constructor
      · rintro ⟨valid, same⟩
        rw [same]
        exact ⟨rfl, valid⟩
      · rintro ⟨same, valid⟩
        rw [same]
        exact ⟨valid, rfl⟩

theorem valid_of_ofJson (read : ofJson text = .ok dictionary) :
    ∀ entry ∈ dictionary.entries, Iri.checkAbsolute entry.1 = .ok () :=
  (ofJson_eq_ok_iff.mp read).2

/-- The content of a file is a dictionary with these members: UTF-8 of one object, whose values are hexadecimal
forms and whose keys are absolute identifiers, no two of which are left with the same octets. -/
structure IsDictionary (members : List (Text × Text)) (content : List UInt8) : Prop where
  object : ∃ text, content = Utf8.encode text ∧ IsObject (members.map asString) text
  forms : ∀ member ∈ members, Hex.IsForm member.2
  absolute : ∀ member ∈ members, Iri.checkAbsolute member.1 = .ok ()
  distinct : ∀ first second left right, lastDigits? members first = some left →
    lastDigits? members second = some right → Hex.octetsOf left = Hex.octetsOf right → first = second

theorem mem_of_lastDigits? {key digits : Text} (found : lastDigits? members key = some digits) :
    (key, digits) ∈ members := by
  obtain ⟨before, after, shape, _⟩ := List.lookup_eq_some_iff.mp found
  rw [← List.mem_reverse, shape]
  simp

theorem nodup_codes_placed_iff (forms : ∀ member ∈ members, Hex.IsForm member.2) :
    ((placed (members.map coded)).map (·.2)).Nodup ↔
      ∀ first second left right, lastDigits? members first = some left →
        lastDigits? members second = some right → Hex.octetsOf left = Hex.octetsOf right → first = second := by
  have unique := nodup_keys_of_pairwise (placed_pairwise (members.map coded))
  have octets {key digits : Text} (found : lastDigits? members key = some digits) :
      (Code.ofDigits digits).octets = Hex.octetsOf digits :=
    Code.octets_ofDigits (forms _ (mem_of_lastDigits? found))
  rw [List.nodup_map_iff_inj_on unique.of_map]
  constructor
  · intro injective first second left right leftFound rightFound same
    have leftIn := mem_placed_coded_iff.mpr ⟨left, leftFound, rfl⟩
    have rightIn := mem_placed_coded_iff.mpr ⟨right, rightFound, rfl⟩
    have codes : Code.ofDigits left = Code.ofDigits right := by
      apply Code.octets_injective
      rw [octets leftFound, octets rightFound, same]
    exact congrArg Prod.fst (injective _ leftIn _ rightIn codes)
  · rintro distinct ⟨first, code⟩ firstIn ⟨second, code'⟩ secondIn same
    obtain ⟨left, leftFound, rfl⟩ := mem_placed_coded_iff.mp firstIn
    obtain ⟨right, rightFound, rfl⟩ := mem_placed_coded_iff.mp secondIn
    have octetsSame : Hex.octetsOf left = Hex.octetsOf right := by
      rw [← octets leftFound, ← octets rightFound]
      exact congrArg Code.octets same
    exact Prod.ext (distinct first second left right leftFound rightFound octetsSame) same

theorem absolute_placed_iff :
    (∀ entry ∈ placed (members.map coded), Iri.checkAbsolute entry.1 = .ok ()) ↔
      ∀ member ∈ members, Iri.checkAbsolute member.1 = .ok () := by
  have kept : (∀ iri ∈ (placed (members.map coded)).map (·.1), Iri.checkAbsolute iri = .ok ()) ↔
      ∀ iri ∈ (members.map coded).map (·.1), Iri.checkAbsolute iri = .ok () := by
    simp only [mem_keys_placed_iff]
  simpa only [List.forall_mem_map, coded] using kept

theorem exists_ofJson_iff :
    (∃ dictionary, ofJson text = .ok dictionary) ↔ ∃ members, IsDictionary members (Utf8.encode text) := by
  constructor
  · rintro ⟨dictionary, loaded⟩
    obtain ⟨read, absolute⟩ := ofJson_eq_ok_iff.mp loaded
    obtain ⟨members, object, forms, entries⟩ := readText_eq_ok_iff.mp read
    have unique := dictionary.nodup_codes
    rw [entries] at unique absolute
    exact ⟨members, ⟨text, rfl, object⟩, forms, absolute_placed_iff.mp absolute,
      (nodup_codes_placed_iff forms).mp unique⟩
  · rintro ⟨members, ⟨text', same, object⟩, forms, absolute, distinct⟩
    obtain rfl := Utf8.encode_injective same
    have uniqueIris := nodup_keys_of_pairwise (placed_pairwise (members.map coded))
    have uniqueCodes := (nodup_codes_placed_iff forms).mpr distinct
    have read := readText_eq_ok_iff.mpr ⟨members, object, forms, rfl⟩
    exact ⟨⟨placed (members.map coded), uniqueIris, uniqueCodes⟩,
      ofJson_eq_ok_iff.mpr ⟨read, absolute_placed_iff.mpr absolute⟩⟩

theorem code?_of_ofJson (written : IsDictionary members (Utf8.encode text))
    (loaded : ofJson text = .ok dictionary) (iri : Iri) (code : Code) :
    dictionary.code? iri = some code ↔
      ∃ digits, lastDigits? members iri = some digits ∧ code.octets = Hex.octetsOf digits := by
  obtain ⟨text', same, object⟩ := written.object
  obtain rfl := Utf8.encode_injective same
  have read := readText_eq_ok_iff.mpr ⟨members, object, written.forms, rfl⟩
  rw [(ofJson_eq_ok_iff.mp loaded).1, Except.ok.injEq] at read
  rw [code?_eq_some_iff, read, mem_placed_coded_iff]
  apply exists_congr
  intro digits
  apply and_congr_right
  intro found
  have form := written.forms _ (mem_of_lastDigits? found)
  constructor
  · rintro rfl
    exact Code.octets_ofDigits form
  · intro octets
    apply Code.octets_injective
    rw [octets, Code.octets_ofDigits form]

def withDigits (pair : Text × Option Text) : Text × Text := (pair.1, pair.2.getD [])

theorem map_asString_withDigits {pairs : List (Text × Option Text)}
    (strings : ∀ pair ∈ pairs, ∃ digits, pair.2 = some digits ∧ Hex.IsForm digits) :
    (pairs.map withDigits).map asString = pairs ∧ ∀ member ∈ pairs.map withDigits, Hex.IsForm member.2 := by
  rw [List.map_map, List.forall_mem_map]
  constructor
  · have same : pairs.map (asString ∘ withDigits) = pairs.map id := by
      apply List.map_congr_left
      intro pair inside
      obtain ⟨digits, string, _⟩ := strings pair inside
      simp only [Function.comp, asString, withDigits, string, Option.getD_some, id]
      rw [← string]
    rw [same, List.map_id]
  · intro pair inside
    obtain ⟨digits, string, form⟩ := strings pair inside
    rwa [withDigits, string]

theorem ofJson_of_perm {pairs others : List (Text × Option Text)} {other : Text}
    (object : IsObject pairs text) (reordered : IsObject others other) (unique : (pairs.map (·.1)).Nodup)
    (same : pairs.Perm others) (loaded : ofJson text = .ok dictionary) : ofJson other = .ok dictionary := by
  obtain ⟨read, absolute⟩ := ofJson_eq_ok_iff.mp loaded
  have strings := forms_of_readText object read
  obtain ⟨shape, forms⟩ := map_asString_withDigits strings
  have otherStrings : ∀ pair ∈ others, ∃ digits, pair.2 = some digits ∧ Hex.IsForm digits := by
    intro pair inside
    exact strings pair (same.mem_iff.mpr inside)
  obtain ⟨otherShape, otherForms⟩ := map_asString_withDigits otherStrings
  rw [← shape] at object
  rw [← otherShape] at reordered
  have firstRead := readText_eq_ok_iff.mpr ⟨_, object, forms, rfl⟩
  have secondRead := readText_eq_ok_iff.mpr ⟨_, reordered, otherForms, rfl⟩
  have uniqueCoded : (((pairs.map withDigits).map coded).map (·.1)).Nodup := by
    simpa [List.map_map, Function.comp_def, coded, withDigits] using unique
  have samePlaced := placed_congr uniqueCoded ((same.map withDigits).map coded)
  rw [firstRead, Except.ok.injEq] at read
  rw [← samePlaced, read] at secondRead
  exact ofJson_eq_ok_iff.mpr ⟨secondRead, absolute⟩

end Acceptance

end Dictionary

end Termbase
