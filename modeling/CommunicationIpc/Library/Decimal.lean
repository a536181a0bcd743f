import Mathlib.Algebra.Order.Ring.Int
import Mathlib.Data.List.Basic
import Mathlib.Data.List.Induction

/-! Decimal numbers as characters: with a fixed width, and without leading zeros. -/
namespace CommunicationIpc.Library

def isDigit (char : UInt8) : Bool := 48 ≤ char.toNat ∧ char.toNat ≤ 57

/-- The last `width` digits. -/
def decimal : Nat → Nat → List UInt8
  | 0,_ => []
  | width+1,value => decimal width (value/10) ++ [UInt8.ofNat (48+value % 10)]

/-- A number without its leading zeros. -/
def trimZeros (chars : List UInt8) : List UInt8 :=
  match chars.dropWhile (fun char => char = 48) with
  | [] => [48]
  | digits => digits

def ofDecimal (chars : List UInt8) : Nat := chars.foldl (fun value char => value*10+(char.toNat-48)) 0

theorem decimal_length (width value : Nat) : (decimal width value).length = width := by
  induction width generalizing value with
  | zero => rfl
  | succ width ih => rw [decimal,List.length_append,ih,List.length_singleton]

theorem decimal_ne_nil {width : Nat} (wide : 0 < width) (value : Nat) : decimal width value ≠ [] := by
  intro none
  have length := decimal_length width value
  rw [none,List.length_nil] at length
  omega

theorem digit_toNat (value : Nat) : (UInt8.ofNat (48+value % 10)).toNat = 48+value % 10 := by
  have small := Nat.mod_lt value (by decide : 0 < 10)
  rw [UInt8.toNat_ofNat',Nat.mod_eq_of_lt (by omega)]

theorem decimal_digits (width value : Nat) : ∀ char ∈ decimal width value, isDigit char = true := by
  induction width generalizing value with
  | zero => exact nofun
  | succ width ih =>
    intro char member
    rcases List.mem_append.mp member with front | last
    · exact ih (value/10) char front
    · have small := Nat.mod_lt value (by decide : 0 < 10)
      rw [List.mem_singleton.mp last,isDigit,digit_toNat]
      simp only [decide_eq_true_eq]
      omega

theorem ofDecimal_decimal (width value : Nat) : ofDecimal (decimal width value) = value % 10^width := by
  induction width generalizing value with
  | zero => rw [Nat.pow_zero,Nat.mod_one]; rfl
  | succ width ih =>
    have front : ofDecimal (decimal width (value/10)) = value/10 % 10^width := ih (value/10)
    unfold ofDecimal at front ⊢
    rw [decimal,List.foldl_append,front,List.foldl_cons,List.foldl_nil,digit_toNat,Nat.pow_succ,Nat.mul_comm (10^width) 10,
      Nat.mod_mul]
    omega

theorem decimal_injective {width left right : Nat} (leftFits : left < 10^width) (rightFits : right < 10^width)
    (same : decimal width left = decimal width right) : left = right := by
  have value := congrArg ofDecimal same
  rwa [ofDecimal_decimal,ofDecimal_decimal,Nat.mod_eq_of_lt leftFits,Nat.mod_eq_of_lt rightFits] at value

theorem ofDecimal_dropWhile (chars : List UInt8) : ofDecimal (chars.dropWhile fun char => char = 48) = ofDecimal chars := by
  induction chars with
  | nil => rfl
  | cons char chars ih =>
    by_cases zero : char = 48
    · rw [List.dropWhile_cons_of_pos (by simp [zero]),ih,zero]
      rfl
    · rw [List.dropWhile_cons_of_neg (by simp [zero])]

theorem ofDecimal_trimZeros (chars : List UInt8) : ofDecimal (trimZeros chars) = ofDecimal chars := by
  rw [← ofDecimal_dropWhile chars]
  unfold trimZeros
  split
  · rename_i none
    rw [none]
    rfl
  · rfl

theorem trimZeros_digits {chars : List UInt8} (digits : ∀ char ∈ chars, isDigit char = true) :
    ∀ char ∈ trimZeros chars, isDigit char = true := by
  unfold trimZeros
  split
  · intro char member
    rw [List.mem_singleton.mp member]
    decide
  · intro char member
    exact digits char ((List.dropWhile_sublist _).mem member)

theorem trimZeros_ne_nil (chars : List UInt8) : trimZeros chars ≠ [] := by
  unfold trimZeros
  split
  · exact nofun
  · rename_i some
    exact some

theorem trimZeros_cons_zero (chars : List UInt8) : trimZeros (48 :: chars) = trimZeros chars := by
  rw [trimZeros,trimZeros,List.dropWhile_cons_of_pos (by simp)]

theorem decimal_of_zero (width : Nat) : decimal width 0 = List.replicate width 48 := by
  induction width with
  | zero => rfl
  | succ width ih =>
    rw [decimal,Nat.zero_div,ih,List.replicate_succ']
    rfl

theorem decimal_ofDecimal {chars : List UInt8} (digits : ∀ char ∈ chars, isDigit char = true) {width : Nat}
    (fits : chars.length ≤ width) : decimal width (ofDecimal chars) = List.replicate (width-chars.length) 48 ++ chars := by
  induction chars using List.reverseRecOn generalizing width with
  | nil => exact (decimal_of_zero width).trans (List.append_nil _).symm
  | append_singleton front last ih =>
    rw [List.length_append,List.length_singleton] at fits
    obtain ⟨width,rfl⟩ : ∃ less, width = less+1 := ⟨width-1,by omega⟩
    have digit := digits last (by simp)
    simp only [isDigit,decide_eq_true_eq] at digit
    have value : ofDecimal (front ++ [last]) = ofDecimal front*10+(last.toNat-48) := by
      rw [ofDecimal,List.foldl_append]
      rfl
    have before := ih (fun char member => digits char (List.mem_append_left _ member)) (Nat.le_of_succ_le_succ fits)
    have quotient : (ofDecimal front*10+(last.toNat-48))/10 = ofDecimal front := by omega
    have remainder : 48+(ofDecimal front*10+(last.toNat-48)) % 10 = last.toNat := by omega
    rw [decimal,value,quotient,remainder,UInt8.ofNat_toNat,before,List.length_append,List.length_singleton,Nat.add_sub_add_right,
      List.append_assoc]

/-- A number as `trimZeros` leaves it: digits without leading zeros. -/
structure IsNumeral (chars : List UInt8) : Prop where
  some_ : chars ≠ []
  digits : ∀ char ∈ chars, isDigit char = true
  first : chars.head? = some 48 → chars = [48]

theorem isNumeral_trimZeros {chars : List UInt8} (digits : ∀ char ∈ chars, isDigit char = true) : IsNumeral (trimZeros chars) := by
  refine ⟨trimZeros_ne_nil chars,trimZeros_digits digits,?_⟩
  unfold trimZeros
  have nonzero := List.head?_dropWhile_not (fun char : UInt8 => char = 48) chars
  split
  · exact fun _ => rfl
  · rename_i rest
    intro zero
    rw [zero] at nonzero
    cases nonzero

theorem isNumeral_zero : IsNumeral [48] := by
  refine ⟨List.cons_ne_nil _ _,?_,fun _ => rfl⟩
  intro char member
  rw [List.mem_singleton.mp member]
  rfl

theorem IsNumeral.trimZeros {chars : List UInt8} (numeral : IsNumeral chars) : trimZeros chars = chars := by
  cases chars with
  | nil => exact absurd rfl numeral.some_
  | cons char chars =>
    by_cases zero : char = 48
    · subst zero
      rw [numeral.first rfl]
      rfl
    · rw [Library.trimZeros,List.dropWhile_cons_of_neg (by simp [zero])]

theorem trimZeros_replicate (count : Nat) (chars : List UInt8) : trimZeros (List.replicate count 48 ++ chars) = trimZeros chars := by
  induction count with
  | zero => rfl
  | succ count ih => rw [List.replicate_succ,List.cons_append,trimZeros_cons_zero,ih]

theorem IsNumeral.eq {left right : List UInt8} (leftNumeral : IsNumeral left) (rightNumeral : IsNumeral right)
    (same : ofDecimal left = ofDecimal right) : left = right := by
  have written : ∀ {chars : List UInt8}, IsNumeral chars → chars.length ≤ left.length+right.length →
      Library.trimZeros (decimal (left.length+right.length) (ofDecimal chars)) = chars := by
    intro chars numeral fits
    rw [decimal_ofDecimal numeral.digits fits,trimZeros_replicate,numeral.trimZeros]
  rw [← written leftNumeral (Nat.le_add_right _ _),same,written rightNumeral (Nat.le_add_left _ _)]

theorem IsNumeral.decimal {chars : List UInt8} (numeral : IsNumeral chars) {width : Nat} (fits : ofDecimal chars < 10^width) :
    Library.trimZeros (decimal width (ofDecimal chars)) = chars := by
  refine (isNumeral_trimZeros (decimal_digits _ _)).eq numeral ?_
  rw [ofDecimal_trimZeros,ofDecimal_decimal,Nat.mod_eq_of_lt fits]

end CommunicationIpc.Library
