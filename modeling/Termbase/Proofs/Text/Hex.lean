import Termbase.CoderError
import Termbase.Proofs.Steps
import Termbase.Proofs.Text.Utf8
import Termbase.Text.Hex

/-! Which texts are hexadecimal forms, of which octets, and when two of them are forms of the same octets. The
pairs of digits that are written give back the octets that they were written for. -/

namespace Termbase

theorem Utf8.encodeChar_of_lt {c : Char} (ascii : c.toNat < 0x80) :
    Utf8.encodeChar c = [UInt8.ofNat c.toNat] := by
  simp [Utf8.encodeChar, ascii]

theorem hexDigit?_hexDigitOf {value : Nat} (bound : value < 16) :
    hexDigit? (hexDigitOf value) = some value := by
  have all : ∀ digit : Fin 16, hexDigit? (hexDigitOf digit) = some digit.val := by decide
  exact all ⟨value, bound⟩

theorem hexDigit?_range {c : Char} {value : Nat} (found : hexDigit? c = some value) :
    c.toNat < 0x80 ∧ value < 16 ∧ hexDigitOf value = asciiLower c := by
  have ascii : c.toNat < 0x80 := by
    unfold hexDigit? at found
    split at found
    next decimal => exact Nat.lt_of_le_of_lt (show c.toNat ≤ 57 from decimal.2) (by omega)
    next =>
      split at found
      next small => exact Nat.lt_of_le_of_lt (show c.toNat ≤ 102 from small.2) (by omega)
      next =>
        split at found
        next capital => exact Nat.lt_of_le_of_lt (show c.toNat ≤ 70 from capital.2) (by omega)
        next => cases found
  have all : ∀ number : Fin 128, (hexDigit? (Char.ofNat number)).all fun value =>
      value < 16 && hexDigitOf value == asciiLower (Char.ofNat number) := by decide
  have here := all ⟨c.toNat, ascii⟩
  simp only [Char.ofNat_toNat, found, Option.all_some, Bool.and_eq_true, decide_eq_true_eq, beq_iff_eq] at here
  exact ⟨ascii, here⟩

theorem isHexDigit_iff {c : Char} : isHexDigit c = true ↔ ∃ value, hexDigit? c = some value := by
  rw [isHexDigit, Option.isSome_iff_exists]

namespace Hex

/-- An even number of hexadecimal digits, small or capital, and not none. -/
def IsForm (digits : Text) : Prop :=
  digits ≠ [] ∧ digits.length % 2 = 0 ∧ ∀ digit ∈ digits, isHexDigit digit = true

def digitValue (digit : Char) : Nat := (hexDigit? digit).getD 0

/-- The octets for which pairs of digits stand, the first digit of a pair being the upper half. -/
def octetsOf : Text → List UInt8
  | high :: low :: rest => UInt8.ofNat (digitValue high * 16 + digitValue low) :: octetsOf rest
  | _ => []

theorem nil_or_singleton {α : Type} {items : List α}
    (short : ∀ first second rest, items = first :: second :: rest → False) :
    items = [] ∨ ∃ item, items = [item] := by
  cases items with
  | nil => exact Or.inl rfl
  | cons first items =>
      cases items with
      | nil => exact Or.inr ⟨first, rfl⟩
      | cons second rest => exact (short first second rest rfl).elim

theorem digit_of_isHexDigit {c : Char} (hexadecimal : isHexDigit c = true) (offset : Nat) :
    digit (UInt8.ofNat c.toNat) offset = .ok (digitValue c) := by
  obtain ⟨value, found⟩ := isHexDigit_iff.mp hexadecimal
  have octet : (UInt8.ofNat c.toNat).toNat = c.toNat :=
    Utf8.toNat_ofNat (by have := (hexDigit?_range found).1; omega)
  simp only [digit, octet, Char.ofNat_toNat, found, digitValue, Option.getD_some]

theorem encodeChar_of_isHexDigit {c : Char} (hexadecimal : isHexDigit c = true) :
    Utf8.encodeChar c = [UInt8.ofNat c.toNat] := by
  obtain ⟨value, found⟩ := isHexDigit_iff.mp hexadecimal
  exact Utf8.encodeChar_of_lt (hexDigit?_range found).1

theorem encode_of_digits {digits : Text} (hexadecimal : ∀ digit ∈ digits, isHexDigit digit = true) :
    Utf8.encode digits = digits.map fun digit => UInt8.ofNat digit.toNat := by
  induction digits with
  | nil => rfl
  | cons digit digits ih =>
      rw [List.forall_mem_cons] at hexadecimal
      rw [Utf8.encode, List.flatMap_cons, ← Utf8.encode, encodeChar_of_isHexDigit hexadecimal.1,
        ih hexadecimal.2]
      rfl

theorem decodePairs_of_digits {digits : Text} (hexadecimal : ∀ digit ∈ digits, isHexDigit digit = true)
    (offset : Nat) :
    decodePairs offset (digits.map fun digit => UInt8.ofNat digit.toNat) = .ok (octetsOf digits) := by
  fun_induction octetsOf digits generalizing offset with
  | case1 high low rest ih =>
      simp only [List.forall_mem_cons] at hexadecimal
      simp only [List.map_cons, decodePairs, digit_of_isHexDigit hexadecimal.1,
        digit_of_isHexDigit hexadecimal.2.1, ih hexadecimal.2.2]
      rfl
  | case2 digits short =>
      rcases nil_or_singleton short with rfl | ⟨digit, rfl⟩
      · rfl
      · rfl

theorem isHexDigit_of_digit {octet : UInt8} {offset value : Nat} (read : digit octet offset = .ok value) :
    isHexDigit (Char.ofNat octet.toNat) = true := by
  unfold digit at read
  split at read
  next found => exact isHexDigit_iff.mpr ⟨_, found⟩
  next => cases read

theorem isHexDigit_of_decodePairs {octets found : List UInt8} {offset : Nat}
    (even : octets.length % 2 = 0) (read : decodePairs offset octets = .ok found) :
    ∀ octet ∈ octets, isHexDigit (Char.ofNat octet.toNat) = true := by
  fun_induction decodePairs offset octets generalizing found with
  | case1 offset high low rest ih =>
      obtain ⟨upper, upperRead, read⟩ := bind_eq_ok_iff.mp read
      obtain ⟨lower, lowerRead, read⟩ := bind_eq_ok_iff.mp read
      obtain ⟨later, laterRead, _⟩ := bind_eq_ok_iff.mp read
      simp only [List.forall_mem_cons]
      have evenRest : rest.length % 2 = 0 := by
        simp only [List.length_cons] at even
        omega
      exact ⟨isHexDigit_of_digit upperRead, isHexDigit_of_digit lowerRead, ih evenRest laterRead⟩
  | case2 octets offset short =>
      rcases nil_or_singleton short with rfl | ⟨octet, rfl⟩
      · simp
      · simp at even

theorem isHexDigit_of_encodeChar {c : Char}
    (hexadecimal : ∀ octet ∈ Utf8.encodeChar c, isHexDigit (Char.ofNat octet.toNat) = true) :
    isHexDigit c = true := by
  have small : ∀ octet ∈ Utf8.encodeChar c, octet.toNat < 0x80 := by
    intro octet member
    obtain ⟨value, found⟩ := isHexDigit_iff.mp (hexadecimal octet member)
    have valid : octet.toNat.isValidChar := Or.inl (Nat.lt_trans octet.toNat_lt (by decide))
    rw [← Utf8.toNat_charOfNat valid]
    exact (hexDigit?_range found).1
  by_cases ascii : c.toNat < 0x80
  · rw [Utf8.encodeChar_of_lt ascii] at hexadecimal
    have first := hexadecimal _ List.mem_cons_self
    rwa [Utf8.toNat_ofNat (by omega), Char.ofNat_toNat] at first
  · -- The first octet of such a character is at least 0xC0.
    have range := Utf8.char_range c
    exfalso
    by_cases two : c.toNat < 0x800
    · have first := small (UInt8.ofNat (0xC0 + c.toNat / 64)) (by simp [Utf8.encodeChar, ascii, two])
      rw [Utf8.toNat_ofNat (by omega)] at first
      omega
    by_cases three : c.toNat < 0x10000
    · have first := small (UInt8.ofNat (0xE0 + c.toNat / 4096))
        (by simp [Utf8.encodeChar, ascii, two, three])
      rw [Utf8.toNat_ofNat (by omega)] at first
      omega
    · have first := small (UInt8.ofNat (0xF0 + c.toNat / 262144))
        (by simp [Utf8.encodeChar, ascii, two, three])
      rw [Utf8.toNat_ofNat (by omega)] at first
      omega

theorem decode_eq_ok_iff {text : Text} {octets : List UInt8} :
    decode text = .ok octets ↔
      text.length % 2 = 0 ∧ (∀ digit ∈ text, isHexDigit digit = true) ∧ octets = octetsOf text := by
  constructor
  · intro read
    simp only [decode] at read
    split at read
    next => cases read
    next even =>
      have shown := isHexDigit_of_decodePairs (by omega) read
      have hexadecimal : ∀ digit ∈ text, isHexDigit digit = true := by
        intro digit member
        apply isHexDigit_of_encodeChar
        intro octet inside
        exact shown octet (List.mem_flatMap.mpr ⟨digit, member, inside⟩)
      rw [encode_of_digits hexadecimal] at even read
      rw [decodePairs_of_digits hexadecimal] at read
      rw [List.length_map] at even
      exact ⟨by omega, hexadecimal, (Except.ok.inj read).symm⟩
  · rintro ⟨even, hexadecimal, rfl⟩
    simp only [decode, encode_of_digits hexadecimal, List.length_map, decodePairs_of_digits hexadecimal]
    rw [if_neg (by omega)]

section Encoding

variable (octet : UInt8) (octets : List UInt8)

theorem encode_cons : encode (octet :: octets) =
    hexDigitOf (octet.toNat / 16) :: hexDigitOf (octet.toNat % 16) :: encode octets := rfl

theorem even_length_encode : (encode octets).length % 2 = 0 := by
  induction octets with
  | nil => rfl
  | cons octet octets ih =>
      rw [encode_cons]
      simp only [List.length_cons]
      omega

theorem isHexDigit_of_mem_encode : ∀ digit ∈ encode octets, isHexDigit digit = true := by
  induction octets with
  | nil => simp [encode]
  | cons octet octets ih =>
      have bound := octet.toNat_lt
      rw [encode_cons, List.forall_mem_cons, List.forall_mem_cons]
      exact ⟨isHexDigit_iff.mpr ⟨_, hexDigit?_hexDigitOf (by omega)⟩,
        isHexDigit_iff.mpr ⟨_, hexDigit?_hexDigitOf (by omega)⟩, ih⟩

@[simp] theorem octetsOf_encode : octetsOf (encode octets) = octets := by
  induction octets with
  | nil => rfl
  | cons octet octets ih =>
      have bound := octet.toNat_lt
      have total : octet.toNat / 16 * 16 + octet.toNat % 16 = octet.toNat := by omega
      rw [encode_cons, octetsOf, ih]
      simp only [digitValue, hexDigit?_hexDigitOf (show octet.toNat / 16 < 16 by omega),
        hexDigit?_hexDigitOf (show octet.toNat % 16 < 16 by omega), Option.getD_some, total, UInt8.ofNat_toNat]

@[simp] theorem decode_encode : decode (encode octets) = .ok octets :=
  decode_eq_ok_iff.mpr ⟨even_length_encode octets, isHexDigit_of_mem_encode octets, (octetsOf_encode octets).symm⟩

end Encoding

theorem encode_octetsOf {digits : Text} (even : digits.length % 2 = 0)
    (hexadecimal : ∀ digit ∈ digits, isHexDigit digit = true) :
    encode (octetsOf digits) = digits.map asciiLower := by
  fun_induction octetsOf digits with
  | case1 high low rest ih =>
      simp only [List.forall_mem_cons] at hexadecimal
      simp only [List.length_cons] at even
      obtain ⟨upper, upperFound⟩ := isHexDigit_iff.mp hexadecimal.1
      obtain ⟨lower, lowerFound⟩ := isHexDigit_iff.mp hexadecimal.2.1
      obtain ⟨_, upperBound, upperDigit⟩ := hexDigit?_range upperFound
      obtain ⟨_, lowerBound, lowerDigit⟩ := hexDigit?_range lowerFound
      have octet : (UInt8.ofNat (upper * 16 + lower)).toNat = upper * 16 + lower :=
        Utf8.toNat_ofNat (by omega)
      have first : (upper * 16 + lower) / 16 = upper := by omega
      have second : (upper * 16 + lower) % 16 = lower := by omega
      have later := ih (by omega) hexadecimal.2.2
      unfold encode at later ⊢
      simp only [List.flatMap_cons, digitValue, upperFound, lowerFound, Option.getD_some, octet, first, second,
        upperDigit, lowerDigit, later, List.map_cons, List.cons_append, List.nil_append]
  | case2 digits short =>
      rcases nil_or_singleton short with rfl | ⟨digit, rfl⟩
      · rfl
      · simp at even

theorem octetsOf_eq_iff {left right : Text} (leftForm : IsForm left) (rightForm : IsForm right) :
    octetsOf left = octetsOf right ↔ left.map asciiLower = right.map asciiLower := by
  have leftBack := encode_octetsOf leftForm.2.1 leftForm.2.2
  have rightBack := encode_octetsOf rightForm.2.1 rightForm.2.2
  constructor
  · intro same
    rw [← leftBack, ← rightBack, same]
  · intro same
    rw [← leftBack, ← rightBack] at same
    rw [← octetsOf_encode (octetsOf left), same, octetsOf_encode]

theorem octetsOf_ne_nil {digits : Text} (form : IsForm digits) : octetsOf digits ≠ [] := by
  fun_cases octetsOf digits with
  | case1 high low rest => simp
  | case2 _ short =>
      obtain ⟨proper, even, _⟩ := form
      rcases nil_or_singleton short with rfl | ⟨digit, rfl⟩
      · exact absurd rfl proper
      · simp at even

end Hex

namespace Code

def ofDigits (digits : Text) : Code := ⟨(Hex.octetsOf digits).headD 0, (Hex.octetsOf digits).tail⟩

theorem octets_injective {left right : Code} (same : left.octets = right.octets) : left = right := by
  cases left
  cases right
  simpa [octets] using same

theorem octets_ofDigits {digits : Text} (form : Hex.IsForm digits) :
    (ofDigits digits).octets = Hex.octetsOf digits := by
  cases found : Hex.octetsOf digits with
  | nil => exact absurd found (Hex.octetsOf_ne_nil form)
  | cons header payload => simp [ofDigits, octets, found]

theorem ofHex_eq_ok_iff {digits : Text} {code : Code} :
    ofHex digits = .ok code ↔ Hex.IsForm digits ∧ code = ofDigits digits := by
  constructor
  · intro read
    unfold ofHex at read
    split at read
    next octets decoded =>
      obtain ⟨even, hexadecimal, rfl⟩ := Hex.decode_eq_ok_iff.mp decoded
      cases found : Hex.octetsOf digits with
      | nil => rw [found] at read; cases read
      | cons header payload =>
          rw [found] at read
          have proper : digits ≠ [] := by
            rintro rfl
            cases found
          have same : (⟨header, payload⟩ : Code) = code := Except.ok.inj read
          exact ⟨⟨proper, even, hexadecimal⟩, by simp [ofDigits, found, ← same]⟩
    next => cases read
  · rintro ⟨form, rfl⟩
    have decoded := Hex.decode_eq_ok_iff.mpr ⟨form.2.1, form.2.2, Eq.refl (Hex.octetsOf digits)⟩
    cases found : Hex.octetsOf digits with
    | nil => exact absurd found (Hex.octetsOf_ne_nil form)
    | cons header payload =>
        simp only [ofHex, decoded, found, ofDigits, List.headD_cons, List.tail_cons]
        rfl

@[simp] theorem ofHex_hex (code : Code) : ofHex code.hex = .ok code := by
  simp only [ofHex, hex, Hex.decode_encode]
  rfl

end Code

end Termbase
