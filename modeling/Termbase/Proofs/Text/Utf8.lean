import Termbase.Text.Utf8

/-! Reading UTF-8 gives back the text that was written, so no two texts have the same octets. And octets that
are read as a text are the ones with which it is written. -/

namespace Termbase.Utf8

theorem toNat_ofNat {value : Nat} (bound : value < 256) : (UInt8.ofNat value).toNat = value :=
  UInt8.toNat_ofNat_of_lt bound

theorem opening_one {value : Nat} (small : value < 0x80) :
    opening (UInt8.ofNat value) = .whole (Char.ofNat value) := by
  simp [opening, toNat_ofNat (show value < 256 by omega), small]

theorem opening_two {lead : Nat} (lower : 2 ≤ lead) (upper : lead < 32) :
    opening (UInt8.ofNat (0xC0 + lead)) = .begun ⟨1, 0x80, 0xBF, lead, 1⟩ := by
  have value : (UInt8.ofNat (0xC0 + lead)).toNat = 0xC0 + lead := toNat_ofNat (by omega)
  simp only [opening, value]
  rw [if_neg (by omega), if_neg (by omega), if_pos (by omega)]
  simp

/-- Below the first bound the character would have a shorter form, above the second it would be half of a
surrogate pair. -/
theorem opening_three {lead : Nat} (upper : lead < 16) :
    opening (UInt8.ofNat (0xE0 + lead)) =
      .begun ⟨2, if lead = 0 then 0xA0 else 0x80, if lead = 13 then 0x9F else 0xBF, lead, 1⟩ := by
  have value : (UInt8.ofNat (0xE0 + lead)).toNat = 0xE0 + lead := toNat_ofNat (by omega)
  simp only [opening, value]
  rw [if_neg (by omega), if_neg (by omega), if_neg (by omega)]
  by_cases first : lead = 0
  · simp [first]
  · rw [if_neg (by omega), if_neg first]
    by_cases surrogate : lead = 13
    · simp [surrogate]
    · rw [if_neg (by omega), if_neg surrogate, if_pos (by omega)]
      simp

theorem opening_four {lead : Nat} (upper : lead < 5) :
    opening (UInt8.ofNat (0xF0 + lead)) =
      .begun ⟨3, if lead = 0 then 0x90 else 0x80, if lead = 4 then 0x8F else 0xBF, lead, 1⟩ := by
  have value : (UInt8.ofNat (0xF0 + lead)).toNat = 0xF0 + lead := toNat_ofNat (by omega)
  simp only [opening, value]
  rw [if_neg (by omega), if_neg (by omega), if_neg (by omega), if_neg (by omega), if_neg (by omega),
    if_neg (by omega)]
  by_cases first : lead = 0
  · simp [first]
  · rw [if_neg (by omega), if_neg first]
    by_cases last : lead = 4
    · simp [last]
    · rw [if_pos (by omega), if_neg last]
      simp

theorem continue_tail {pending : Pending} {tail : Nat} (bound : tail < 64)
    (lower : pending.low ≤ 0x80 + tail) (upper : 0x80 + tail ≤ pending.high) :
    pending.continue (UInt8.ofNat (0x80 + tail)) =
      if pending.owed ≤ 1 then .whole (Char.ofNat (pending.value * 64 + tail))
      else .begun ⟨pending.owed - 1, 0x80, 0xBF, pending.value * 64 + tail, pending.taken + 1⟩ := by
  have value : (UInt8.ofNat (0x80 + tail)).toNat = 0x80 + tail := toNat_ofNat (by omega)
  have low : (0x80 + tail) % 64 = tail := by omega
  simp only [Pending.continue, value, low]
  rw [if_pos ⟨lower, upper⟩]

theorem char_range (c : Char) : c.toNat < 0xD800 ∨ 0xDFFF < c.toNat ∧ c.toNat < 0x110000 :=
  c.valid

theorem decodeFrom_encodeChar (offset : Nat) (c : Char) (rest : List UInt8) :
    decodeFrom offset none (encodeChar c ++ rest) =
      (decodeFrom (offset + (encodeChar c).length) none rest).map (c :: ·) := by
  have range := char_range c
  have restored : Char.ofNat c.toNat = c := Char.ofNat_toNat c
  simp only [encodeChar]
  generalize valueEq : c.toNat = value at range restored
  by_cases one : value < 0x80
  · simp [one, decodeFrom, opening_one one, restored]
  by_cases two : value < 0x800
  · have total : value / 64 * 64 + value % 64 = value := by omega
    simp only [one, two, if_false, if_true, List.cons_append, List.nil_append, decodeFrom,
      opening_two (show 2 ≤ value / 64 by omega) (by omega)]
    rw [continue_tail (by omega) (by simp) (by simp; omega)]
    simp [total, restored]
  by_cases three : value < 0x10000
  · have total : (value / 4096 * 64 + value / 64 % 64) * 64 + value % 64 = value := by omega
    simp only [one, two, three, if_false, if_true, List.cons_append, List.nil_append, decodeFrom,
      opening_three (show value / 4096 < 16 by omega)]
    rw [continue_tail (by omega) (by dsimp only; split <;> omega) (by dsimp only; split <;> omega)]
    simp only [show ¬ 2 ≤ 1 by omega, if_false]
    rw [continue_tail (by omega) (by simp) (by simp; omega)]
    simp [total, restored]
  · have total : ((value / 262144 * 64 + value / 4096 % 64) * 64 + value / 64 % 64) * 64 + value % 64 =
        value := by omega
    simp only [one, two, three, if_false, List.cons_append, List.nil_append, decodeFrom,
      opening_four (show value / 262144 < 5 by omega)]
    rw [continue_tail (by omega) (by dsimp only; split <;> omega) (by dsimp only; split <;> omega)]
    simp only [show ¬ 3 ≤ 1 by omega, if_false]
    rw [continue_tail (by omega) (by simp) (by simp; omega)]
    simp only [show ¬ 3 - 1 ≤ 1 by omega, if_false]
    rw [continue_tail (by omega) (by simp) (by simp; omega)]
    simp [total, restored]

theorem decodeFrom_encode (offset : Nat) (text : Text) :
    decodeFrom offset none (encode text) = .ok text := by
  induction text generalizing offset with
  | nil => simp [encode, decodeFrom]
  | cons c text ih =>
      have written : encode (c :: text) = encodeChar c ++ encode text := by simp [encode]
      rw [written, decodeFrom_encodeChar, ih]
      rfl

@[simp] theorem decode_encode (text : Text) : decode (encode text) = .ok text :=
  decodeFrom_encode 0 text

theorem encode_injective {left right : Text} (same : encode left = encode right) : left = right := by
  have read : (Except.ok left : Except Utf8Error Text) = .ok right := by
    rw [← decode_encode left, same, decode_encode]
  exact Except.ok.inj read

section Exact

theorem toNat_charOfNat {value : Nat} (valid : value.isValidChar) : (Char.ofNat value).toNat = value := by
  rw [Char.ofNat, dif_pos valid]
  rfl

variable {offset : Nat} {pending : Pending} {octets : List UInt8} {text : Text}

theorem decodeFrom_pending (read : decodeFrom offset (some pending) octets = .ok text) :
    ∃ octet rest, octets = octet :: rest ∧ pending.low ≤ octet.toNat ∧ octet.toNat ≤ pending.high ∧
      if pending.owed ≤ 1 then
        ∃ later, text = Char.ofNat (pending.value * 64 + octet.toNat % 64) :: later ∧
          decodeFrom (offset + 1) none rest = .ok later
      else
        decodeFrom (offset + 1) (some ⟨pending.owed - 1, 0x80, 0xBF, pending.value * 64 + octet.toNat % 64,
          pending.taken + 1⟩) rest = .ok text := by
  cases octets with
  | nil => cases read
  | cons octet rest =>
      by_cases inside : pending.low ≤ octet.toNat ∧ octet.toNat ≤ pending.high
      · refine ⟨octet, rest, rfl, inside.1, inside.2, ?_⟩
        by_cases last : pending.owed ≤ 1
        · simp only [decodeFrom, Pending.continue, if_pos inside, if_pos last] at read ⊢
          cases later : decodeFrom (offset + 1) none rest with
          | error error => rw [later] at read; cases read
          | ok later' =>
              rw [later] at read
              cases read
              exact ⟨later', rfl, rfl⟩
        · simp only [decodeFrom, Pending.continue, if_pos inside, if_neg last] at read ⊢
          exact read
      · simp only [decodeFrom, Pending.continue, if_neg inside] at read
        cases read

theorem octet_eq {octet : UInt8} {value : Nat} (same : octet.toNat = value) : UInt8.ofNat value = octet := by
  rw [← same, UInt8.ofNat_toNat]

theorem encodeChar_two {lead : Nat} {second : UInt8} (lower : 2 ≤ lead) (upper : lead < 32)
    (secondLow : 0x80 ≤ second.toNat) (secondHigh : second.toNat ≤ 0xBF) :
    encodeChar (Char.ofNat (lead * 64 + second.toNat % 64)) = [UInt8.ofNat (0xC0 + lead), second] := by
  have valid : (lead * 64 + second.toNat % 64).isValidChar := by
    left
    omega
  have first : (lead * 64 + second.toNat % 64) / 64 = lead := by omega
  have last : second.toNat = 0x80 + (lead * 64 + second.toNat % 64) % 64 := by omega
  simp only [encodeChar, toNat_charOfNat valid]
  rw [if_neg (by omega), if_pos (by omega), first, octet_eq last]

theorem encodeChar_three {lead : Nat} {second third : UInt8} (upper : lead < 16)
    (secondLow : (if lead = 0 then 0xA0 else 0x80) ≤ second.toNat)
    (secondHigh : second.toNat ≤ if lead = 13 then 0x9F else 0xBF)
    (thirdLow : 0x80 ≤ third.toNat) (thirdHigh : third.toNat ≤ 0xBF) :
    encodeChar (Char.ofNat ((lead * 64 + second.toNat % 64) * 64 + third.toNat % 64)) =
      [UInt8.ofNat (0xE0 + lead), second, third] := by
  generalize valueEq : (lead * 64 + second.toNat % 64) * 64 + third.toNat % 64 = value
  have secondTail : 0x80 ≤ second.toNat ∧ second.toNat ≤ 0xBF := by
    split at secondLow <;> split at secondHigh <;> omega
  have lower : 0x800 ≤ value := by
    split at secondLow <;> omega
  have valid : value.isValidChar := by
    by_cases surrogate : lead = 13
    · rw [if_pos surrogate] at secondHigh
      left
      omega
    · by_cases below : lead < 13
      · left
        omega
      · right
        omega
  have first : value / 4096 = lead := by omega
  have middle : second.toNat = 0x80 + value / 64 % 64 := by omega
  have last : third.toNat = 0x80 + value % 64 := by omega
  simp only [encodeChar, toNat_charOfNat valid]
  rw [if_neg (by omega), if_neg (by omega), if_pos (by omega), first, octet_eq middle, octet_eq last]

theorem encodeChar_four {lead : Nat} {second third fourth : UInt8} (upper : lead < 5)
    (secondLow : (if lead = 0 then 0x90 else 0x80) ≤ second.toNat)
    (secondHigh : second.toNat ≤ if lead = 4 then 0x8F else 0xBF)
    (thirdLow : 0x80 ≤ third.toNat) (thirdHigh : third.toNat ≤ 0xBF)
    (fourthLow : 0x80 ≤ fourth.toNat) (fourthHigh : fourth.toNat ≤ 0xBF) :
    encodeChar (Char.ofNat
        (((lead * 64 + second.toNat % 64) * 64 + third.toNat % 64) * 64 + fourth.toNat % 64)) =
      [UInt8.ofNat (0xF0 + lead), second, third, fourth] := by
  generalize valueEq :
    ((lead * 64 + second.toNat % 64) * 64 + third.toNat % 64) * 64 + fourth.toNat % 64 = value
  have secondTail : 0x80 ≤ second.toNat ∧ second.toNat ≤ 0xBF := by
    split at secondLow <;> split at secondHigh <;> omega
  have lower : 0x10000 ≤ value := by
    split at secondLow <;> omega
  have valid : value.isValidChar := by
    right
    split at secondHigh <;> omega
  have first : value / 262144 = lead := by omega
  have middle : second.toNat = 0x80 + value / 4096 % 64 := by omega
  have next : third.toNat = 0x80 + value / 64 % 64 := by omega
  have last : fourth.toNat = 0x80 + value % 64 := by omega
  simp only [encodeChar, toNat_charOfNat valid]
  rw [if_neg (by omega), if_neg (by omega), if_neg (by omega), first, octet_eq middle, octet_eq next,
    octet_eq last]

theorem decodeFrom_cons {first : UInt8} (read : decodeFrom offset none (first :: octets) = .ok text) :
    ∃ c later rest next, text = c :: later ∧ first :: octets = encodeChar c ++ rest ∧
      decodeFrom next none rest = .ok later := by
  obtain ⟨value, bound, rfl⟩ : ∃ value < 256, first = UInt8.ofNat value :=
    ⟨first.toNat, first.toNat_lt, UInt8.ofNat_toNat.symm⟩
  by_cases one : value < 0x80
  · have valid : value.isValidChar := by
      left
      omega
    simp only [decodeFrom, opening_one one] at read
    cases later : decodeFrom (offset + 1) none octets with
    | error error => rw [later] at read; cases read
    | ok later' =>
        rw [later] at read
        cases read
        refine ⟨_, later', octets, _, rfl, ?_, later⟩
        simp [encodeChar, toNat_charOfNat valid, one]
  by_cases two : 0xC2 ≤ value ∧ value < 0xE0
  · obtain ⟨lead, rfl⟩ : ∃ lead, value = 0xC0 + lead := ⟨value - 0xC0, by omega⟩
    simp only [decodeFrom, opening_two (show 2 ≤ lead by omega) (by omega)] at read
    obtain ⟨second, rest, rfl, secondLow, secondHigh, later, rfl, tail⟩ := decodeFrom_pending read
    refine ⟨_, later, rest, _, rfl, ?_, tail⟩
    rw [encodeChar_two (show 2 ≤ lead by omega) (show lead < 32 by omega) secondLow secondHigh]
    rfl
  by_cases three : 0xE0 ≤ value ∧ value < 0xF0
  · obtain ⟨lead, rfl⟩ : ∃ lead, value = 0xE0 + lead := ⟨value - 0xE0, by omega⟩
    simp only [decodeFrom, opening_three (show lead < 16 by omega)] at read
    obtain ⟨second, rest, rfl, secondLow, secondHigh, more⟩ := decodeFrom_pending read
    obtain ⟨third, rest, rfl, thirdLow, thirdHigh, later, rfl, tail⟩ := decodeFrom_pending more
    refine ⟨_, later, rest, _, rfl, ?_, tail⟩
    rw [encodeChar_three (show lead < 16 by omega) secondLow secondHigh thirdLow thirdHigh]
    rfl
  by_cases four : 0xF0 ≤ value ∧ value < 0xF5
  · obtain ⟨lead, rfl⟩ : ∃ lead, value = 0xF0 + lead := ⟨value - 0xF0, by omega⟩
    simp only [decodeFrom, opening_four (show lead < 5 by omega)] at read
    obtain ⟨second, rest, rfl, secondLow, secondHigh, more⟩ := decodeFrom_pending read
    obtain ⟨third, rest, rfl, thirdLow, thirdHigh, more⟩ := decodeFrom_pending more
    obtain ⟨fourth, rest, rfl, fourthLow, fourthHigh, later, rfl, tail⟩ := decodeFrom_pending more
    refine ⟨_, later, rest, _, rfl, ?_, tail⟩
    rw [encodeChar_four (show lead < 5 by omega) secondLow secondHigh thirdLow thirdHigh fourthLow fourthHigh]
    rfl
  have refused : opening (UInt8.ofNat value) = .refused := by
    have octet : (UInt8.ofNat value).toNat = value := toNat_ofNat bound
    simp only [opening, octet]
    rw [if_neg one]
    by_cases low : value < 0xC2
    · rw [if_pos low]
    · rw [if_neg low, if_neg (by omega), if_neg (by omega), if_neg (by omega), if_neg (by omega),
        if_neg (by omega), if_neg (by omega), if_neg (by omega)]
  rw [decodeFrom, refused] at read
  cases read

theorem encodeChar_length_pos (c : Char) : 0 < (encodeChar c).length := by
  simp only [encodeChar]
  split
  next => simp
  next =>
    split
    next => simp
    next => split <;> simp

theorem encode_of_decodeFrom (read : decodeFrom offset none octets = .ok text) : encode text = octets := by
  induction length : octets.length using Nat.strongRecOn generalizing offset octets text with
  | ind length' ih =>
      cases octets with
      | nil =>
          cases read
          rfl
      | cons first rest =>
          obtain ⟨c, later, tail, next, rfl, split, read⟩ := decodeFrom_cons read
          have shorter : tail.length < length' := by
            have parts := congrArg List.length split
            rw [List.length_append] at parts
            have proper := encodeChar_length_pos c
            omega
          have written : encode (c :: later) = encodeChar c ++ encode later := by simp [encode]
          rw [written, ih tail.length shorter read rfl, split]

theorem encode_of_decode (read : decode octets = .ok text) : encode text = octets :=
  encode_of_decodeFrom read

end Exact

end Termbase.Utf8
