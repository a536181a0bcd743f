import CommunicationIpc.Kernel.NegotiationData
import CommunicationIpc.Kernel.RawData
import CommunicationIpc.Library.Decimal

/-! What `std::to_string` writes of a number, and what `std::from_chars` reads of a text: the number at its front. -/
namespace CommunicationIpc.Numerals
open CommunicationIpc.Library CommunicationIpc.Kernel.NegotiationData CommunicationIpc.Kernel.RawData

section Write

theorem trimZeros_decimal_injective {width left right : Nat} (leftFits : left < 10^width) (rightFits : right < 10^width)
    (same : trimZeros (decimal width left) = trimZeros (decimal width right)) : left = right := by
  have value := congrArg ofDecimal same
  rwa [ofDecimal_trimZeros,ofDecimal_trimZeros,ofDecimal_decimal,ofDecimal_decimal,Nat.mod_eq_of_lt leftFits,
    Nat.mod_eq_of_lt rightFits] at value

theorem digits_not_mem {width value : Nat} {char : UInt8} (other : isDigit char = false) : char ∉ trimZeros (decimal width value) := by
  intro member
  rw [trimZeros_digits (decimal_digits _ _) char member] at other
  cases other

theorem toString32_plain {char : UInt8} (other : isDigit char = false) (unsigned : char ≠ 45) (value : Int32) :
    char ∉ toString32 value := by
  have digits : char ∉ trimZeros (decimal 10 value.toInt.natAbs) := digits_not_mem other
  rw [toString32]
  split
  · intro member
    rcases List.mem_cons.mp member with sign | rest
    · exact unsigned sign
    · exact digits rest
  · exact digits

theorem toString32_not_mem (value : Int32) : 95 ∉ toString32 value := toString32_plain (by decide) (by decide) value

theorem toString32_injective {left right : Int32} (same : toString32 left = toString32 right) : left = right := by
  have bounds : ∀ value : Int32, -2^31 ≤ value.toInt ∧ value.toInt < 2^31 := fun value => ⟨value.le_toInt,value.toInt_lt⟩
  have sign : ∀ {width value : Nat}, (45 : UInt8) ∉ trimZeros (decimal width value) := digits_not_mem (by decide)
  have leftBounds := bounds left
  have rightBounds := bounds right
  have magnitude : ∀ {one two : Nat}, one ≤ 2^31 → two ≤ 2^31 → trimZeros (decimal 10 one) = trimZeros (decimal 10 two) → one = two :=
    fun small also equal => trimZeros_decimal_injective (Nat.lt_of_le_of_lt small (by decide)) (Nat.lt_of_le_of_lt also (by decide)) equal
  apply Int32.toInt_inj.mp
  have negative : ∀ value : Int32, value < 0 ↔ value.toInt < 0 := fun value => Int32.lt_iff_toInt_lt
  rw [toString32,toString32] at same
  split at same
  · rename_i leftNegative
    split at same
    · rename_i rightNegative
      have equal := magnitude (by omega) (by omega) (List.cons.inj same).2
      have first := (negative left).mp leftNegative
      have second := (negative right).mp rightNegative
      omega
    · exact absurd (same ▸ List.mem_cons_self) sign
  · rename_i leftPositive
    split at same
    · exact absurd (same.symm ▸ List.mem_cons_self) sign
    · rename_i rightPositive
      have equal := magnitude (by omega) (by omega) same
      have first := mt (negative left).mpr leftPositive
      have second := mt (negative right).mpr rightPositive
      omega

end Write

section Read
variable {chars : List UInt8} {value : Int32}

/-- The digits at the front, behind a sign. -/
def frontDigits (chars : List UInt8) : List UInt8 := (if chars.head? = some 45 then chars.tail else chars).takeWhile isDigit

/-- A text with a number of 32 bits at its front. -/
def BeginsNumber (chars : List UInt8) : Prop :=
  frontDigits chars ≠ [] ∧ ofDecimal (frontDigits chars) ≤ if chars.head? = some 45 then 2^31 else 2^31-1

/-- A text that is a number, without leading zeros or a negative zero. -/
def IsNumber (chars : List UInt8) : Prop :=
  if chars.head? = some 45 then IsNumeral chars.tail ∧ chars.tail ≠ [48] else IsNumeral chars

theorem fromChars_eq_some_iff : fromChars chars = some value ↔ BeginsNumber chars ∧
    value = Int32.ofInt (if chars.head? = some 45 then -(ofDecimal (frontDigits chars) : Int) else ofDecimal (frontDigits chars)) := by
  by_cases begins : BeginsNumber chars
  · have read : fromChars chars = some (Int32.ofInt (if chars.head? = some 45 then -(ofDecimal (frontDigits chars) : Int)
        else ofDecimal (frontDigits chars))) := if_neg (not_or.mpr ⟨begins.1,Nat.not_lt.mpr begins.2⟩)
    rw [read,Option.some_inj,and_iff_right begins]
    exact eq_comm
  · have refused : fromChars chars = none := by
      refine if_pos (by_contra fun accepted => begins ?_)
      rw [not_or] at accepted
      exact ⟨accepted.1,Nat.not_lt.mp accepted.2⟩
    exact iff_of_false (by rw [refused]; exact (Option.some_ne_none value).symm) fun read => begins read.1

theorem takeWhile_digits {digits : List UInt8} (numeral : IsNumeral digits) : digits.takeWhile isDigit = digits :=
  List.takeWhile_eq_self_iff.mpr numeral.digits

theorem isNumeral_magnitude (value : Int32) : IsNumeral (trimZeros (decimal 10 value.toInt.natAbs)) :=
  isNumeral_trimZeros (decimal_digits _ _)

theorem ofDecimal_magnitude (value : Int32) : ofDecimal (trimZeros (decimal 10 value.toInt.natAbs)) = value.toInt.natAbs := by
  have bounds := And.intro value.le_toInt value.toInt_lt
  rw [ofDecimal_trimZeros,ofDecimal_decimal]
  exact Nat.mod_eq_of_lt (by omega)

theorem IsNumeral.not_negative {digits : List UInt8} (numeral : IsNumeral digits) : digits.head? ≠ some 45 := by
  intro sign
  have digit := numeral.digits 45 (List.mem_of_head? sign)
  revert digit
  decide

theorem fromChars_toString32 (value : Int32) : fromChars (toString32 value) = some value := by
  have bounds := And.intro value.le_toInt value.toInt_lt
  have numeral := isNumeral_magnitude value
  have magnitude := ofDecimal_magnitude value
  have negative : value < 0 ↔ value.toInt < 0 := Int32.lt_iff_toInt_lt
  rw [fromChars_eq_some_iff,toString32]
  split
  · rename_i below
    rw [negative] at below
    have digits : frontDigits (45 :: trimZeros (decimal 10 value.toInt.natAbs)) = trimZeros (decimal 10 value.toInt.natAbs) := by
      rw [frontDigits,List.head?_cons,if_pos rfl,List.tail_cons,takeWhile_digits numeral]
    rw [BeginsNumber,digits,magnitude,List.head?_cons,if_pos rfl,if_pos rfl]
    refine ⟨⟨numeral.some_,by omega⟩,?_⟩
    rw [Int.ofNat_natAbs_of_nonpos (Int.le_of_lt below),Int.neg_neg,Int32.ofInt_toInt]
  · rename_i above
    rw [negative] at above
    have unsigned := IsNumeral.not_negative numeral
    have digits : frontDigits (trimZeros (decimal 10 value.toInt.natAbs)) = trimZeros (decimal 10 value.toInt.natAbs) := by
      rw [frontDigits,if_neg unsigned,takeWhile_digits numeral]
    rw [BeginsNumber,digits,magnitude,if_neg unsigned,if_neg unsigned]
    refine ⟨⟨numeral.some_,by omega⟩,?_⟩
    rw [Int.natAbs_of_nonneg (Int.not_lt.mp above),Int32.ofInt_toInt]

theorem toString32_isNumber (value : Int32) : IsNumber (toString32 value) := by
  have numeral := isNumeral_magnitude value
  rw [toString32]
  split
  · rename_i negative
    refine (if_pos (List.head?_cons ..)).mpr ⟨numeral,?_⟩
    intro zero
    have magnitude := ofDecimal_magnitude value
    have below : value.toInt < 0 := Int32.lt_iff_toInt_lt.mp negative
    rw [List.tail_cons] at zero
    rw [zero] at magnitude
    change 0 = _ at magnitude
    omega
  · exact (if_neg (IsNumeral.not_negative numeral)).mpr numeral

/-- What a text that is read as a number has to be, for the number to be written so. -/
theorem toString32_eq_iff (read : fromChars chars = some value) : chars = toString32 value ↔ IsNumber chars := by
  constructor
  · intro same
    rw [same]
    exact toString32_isNumber value
  obtain ⟨⟨-,fits⟩,same⟩ := fromChars_eq_some_iff.mp read
  intro number
  rw [IsNumber] at number
  split at number
  · rename_i sign
    rw [if_pos sign] at fits same
    obtain ⟨numeral,nonzero⟩ := number
    have digits : frontDigits chars = chars.tail := by rw [frontDigits,if_pos sign,takeWhile_digits numeral]
    rw [digits] at fits same
    have positive : ofDecimal chars.tail ≠ 0 := fun zero => nonzero (numeral.eq isNumeral_zero zero)
    have known : value.toInt = -(ofDecimal chars.tail : Int) := by
      rw [same,Int32.toInt_ofInt_of_le (by omega) (by omega)]
    have below : value < 0 := Int32.lt_iff_toInt_lt.mpr (by rw [known]; exact Int.neg_neg_of_pos (by omega))
    have small : ofDecimal chars.tail < 10^10 := Nat.lt_of_le_of_lt fits (by decide)
    have written := numeral.decimal small
    rw [toString32,if_pos below,known,Int.natAbs_neg,Int.natAbs_natCast,written]
    exact List.eq_cons_of_mem_head? sign
  · rename_i unsigned
    rw [if_neg unsigned] at fits same
    have digits : frontDigits chars = chars := by rw [frontDigits,if_neg unsigned,takeWhile_digits number]
    rw [digits] at fits same
    have known : value.toInt = ofDecimal chars := by
      rw [same,Int32.toInt_ofInt_of_le (by omega) (by omega)]
    have above : ¬ value < 0 := by
      intro negative
      have below : value.toInt < 0 := Int32.lt_iff_toInt_lt.mp negative
      omega
    have small : ofDecimal chars < 10^10 := Nat.lt_of_le_of_lt fits (by decide)
    rw [toString32,if_neg above,known,Int.natAbs_natCast,number.decimal small]

end Read

end CommunicationIpc.Numerals
