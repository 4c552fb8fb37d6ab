import Termbase.Code

/-! The header of a code tells the kind of its value and the coder that wrote it. -/

namespace Termbase

theorem ValueType.number_lt (type : ValueType) : type.number < 4 := by
  cases type <;> decide

theorem CoderId.toNat_header (coder : CoderId) (type : ValueType) :
    (coder.header type).toNat = coder.number * 4 + type.number := by
  have small := type.number_lt
  have bounded := coder.bounded
  exact UInt8.toNat_ofNat_of_lt (by simp only [UInt8.size]; omega)

@[simp] theorem ValueType.ofHeader_header (coder : CoderId) (type : ValueType) :
    ValueType.ofHeader (coder.header type) = type := by
  have low : (coder.number * 4 + type.number) % 4 = type.number := by
    have small := type.number_lt
    omega
  rw [ValueType.ofHeader, coder.toNat_header, low]
  cases type <;> rfl

@[simp] theorem CoderId.ofHeader_header (coder : CoderId) (type : ValueType) :
    CoderId.ofHeader (coder.header type) = coder := by
  have small := type.number_lt
  have bounded := coder.bounded
  have high : (coder.number * 4 + type.number) / 4 % 32 = coder.number := by omega
  simp only [CoderId.ofHeader, coder.toNat_header, high]

namespace Code

@[simp] theorem type_make (coder : CoderId) (type : ValueType) (payload : List UInt8) :
    (make coder type payload).type = type :=
  ValueType.ofHeader_header coder type

@[simp] theorem coder_make (coder : CoderId) (type : ValueType) (payload : List UInt8) :
    (make coder type payload).coder = coder :=
  CoderId.ofHeader_header coder type

@[simp] theorem payload_make (coder : CoderId) (type : ValueType) (payload : List UInt8) :
    (make coder type payload).payload = payload :=
  rfl

end Code

end Termbase
