import CommunicationIpc.Kernel.SocketHash
import Mathlib.Data.Nat.Digits.Defs

/-! The ports of the two socket transports: the loops feed the same characters but for the first one, which comes twice in the one. -/
namespace CommunicationIpc.SocketHash
open CommunicationIpc.Kernel.SocketHash

section Characters
variable {signed : Bool}

/-- The low half of a character that was widened is the character. -/
theorem toUInt8_ofChar (char : UInt8) : (ofChar signed char).toUInt8 = char := by
  cases signed with
  | true =>
    apply UInt8.toBitVec_inj.mp
    simp only [ofChar,if_true,UInt16.toBitVec_toUInt8,Int16.toBitVec_toUInt16,Int8.toBitVec_toInt16,UInt8.toBitVec_toInt8]
    ext i inside
    have widened : i < 16 := by omega
    rw [BitVec.getElem_setWidth,BitVec.getLsbD_signExtend,decide_eq_true widened,if_pos inside,Bool.true_and,BitVec.getLsbD_eq_getElem]
  | false => simp [ofChar]

theorem ofChar_ne_zero {char : UInt8} (nonzero : char ≠ 0) : ofChar signed char ≠ 0 := by
  intro zero
  have low := @toUInt8_ofChar signed char
  rw [zero] at low
  exact nonzero low.symm

theorem toNat_mix (hash c : UInt16) : (mix hash c).toNat = (9*hash.toNat+c.toNat) % 2^16 := by
  have shifted : (hash <<< defaultHashOffset).toNat = hash.toNat*8 % 2^16 := by simp [defaultHashOffset,Nat.shiftLeft_eq]
  rw [mix,UInt16.toNat_add,UInt16.toNat_add,shifted]
  omega

/-- The polynomial of the characters at 9, the last one with the lowest power. -/
def polynomial (signed : Bool) (name : List UInt8) : Nat := Nat.ofDigits 9 (name.map fun char => (ofChar signed char).toNat).reverse

theorem polynomial_cons (char : UInt8) (name : List UInt8) :
    polynomial signed (char :: name) = polynomial signed name+9^name.length*(ofChar signed char).toNat := by
  simp only [polynomial,List.map_cons,List.reverse_cons,Nat.ofDigits_append,Nat.ofDigits_singleton,List.length_reverse,List.length_map]

theorem toNat_hashLoop {name : List UInt8} (terminated : 0 ∉ name) (hash : UInt16) :
    (Mini.hashLoop signed name hash).toNat = (9^name.length*hash.toNat+polynomial signed name) % 2^16 := by
  induction name generalizing hash with
  | nil =>
    have small := hash.toNat_lt
    simp only [Mini.hashLoop,polynomial,List.map_nil,List.reverse_nil,Nat.ofDigits_nil,List.length_nil]
    omega
  | cons char name ih =>
    have nonzero : ofChar signed char ≠ 0 := ofChar_ne_zero fun zero => terminated (zero ▸ List.mem_cons_self)
    rw [Mini.hashLoop]
    simp only [ne_eq,nonzero,not_false_eq_true,if_true]
    rw [ih (fun member => terminated (List.mem_cons_of_mem _ member)),toNat_mix,polynomial_cons,List.length_cons]
    have carried : 9^name.length*((9*hash.toNat+(ofChar signed char).toNat) % 2^16) % 2^16 =
        (9^(name.length+1)*hash.toNat+9^name.length*(ofChar signed char).toNat) % 2^16 := by
      rw [Nat.mul_mod,Nat.mod_mod,← Nat.mul_mod]
      congr 1
      ring
    omega

/-- Behind the first character of the one loop runs the other. -/
theorem hashLoop_eq {name : List UInt8} (terminated : 0 ∉ name) {c : UInt16} (nonzero : c ≠ 0) (hash : UInt16) :
    Socket.hashLoop signed c name hash = Mini.hashLoop signed name (mix hash c) := by
  induction name generalizing c hash with
  | nil => simp only [Socket.hashLoop,Mini.hashLoop,nonzero,ne_eq,not_false_eq_true,if_true]
  | cons char name ih =>
    have next : ofChar signed char ≠ 0 := ofChar_ne_zero fun zero => terminated (zero ▸ List.mem_cons_self)
    have rest := ih (fun member => terminated (List.mem_cons_of_mem _ member)) next (mix hash c)
    simp only [Socket.hashLoop,Mini.hashLoop,nonzero,next,ne_eq,not_false_eq_true,if_true,rest]

/-- What the first character, fed once more, adds to the hash. -/
def shift (signed : Bool) (char : UInt8) (length : Nat) : Nat := 9^length*(8*5381+(ofChar signed char).toNat) % 2^16

theorem toNat_socket_hashLoop {char : UInt8} {name : List UInt8} (terminated : 0 ∉ char :: name) :
    (Socket.hashLoop signed (ofChar signed char) (char :: name) defaultHashSeed).toNat =
      ((Mini.hashLoop signed (char :: name) defaultHashSeed).toNat+shift signed char (name.length+1)) % 2^16 := by
  have nonzero : ofChar signed char ≠ 0 := ofChar_ne_zero fun zero => terminated (zero ▸ List.mem_cons_self)
  rw [hashLoop_eq terminated nonzero,toNat_hashLoop terminated,toNat_hashLoop terminated,toNat_mix,shift,List.length_cons]
  have seed : defaultHashSeed.toNat = 5381 := rfl
  rw [seed]
  have carried : 9^(name.length+1)*((9*5381+(ofChar signed char).toNat) % 2^16) % 2^16 =
      (9^(name.length+1)*5381+9^(name.length+1)*(8*5381+(ofChar signed char).toNat)) % 2^16 := by
    rw [Nat.mul_mod,Nat.mod_mod,← Nat.mul_mod]
    congr 1
    ring
  omega

theorem toNat_portOf (hash : UInt16) : (portOf hash).toNat = hash.toNat % 10000+10000 := by
  have known : defaultPortMin.toNat = 10000 := rfl
  rw [portOf,UInt16.toNat_add,UInt16.toNat_mod,known]
  omega

theorem portOf_eq_iff {one two : UInt16} : portOf one = portOf two ↔ one.toNat % 10000 = two.toNat % 10000 := by
  rw [← UInt16.toNat_inj,toNat_portOf,toNat_portOf]
  omega

end Characters

/-- The first character shifts the hash by a multiple of the number of ports, over 2^16 or not. -/
def Meets (signed : Bool) : List UInt8 → Prop
  | [] => True
  | char :: name =>
    let sum := (9^(name.length+1)*5381+polynomial signed (char :: name)) % 2^16
    let shifted := shift signed char (name.length+1)
    if sum+shifted < 2^16 then 10000 ∣ shifted else 10000 ∣ 2^16-shifted

/-- Both ports are in the range, and they are the same one for the empty name and for those whose first character happens to
shift the hash by a multiple of the range. -/
theorem ports_meet_iff (signed : Bool) {name : List UInt8} (terminated : 0 ∉ name) :
    (Socket.hash signed (some name) = Mini.hash signed (some name) ∧
      defaultPortMin ≤ Socket.hash signed (some name) ∧ Socket.hash signed (some name) < 2*defaultPortMin ∧
      defaultPortMin ≤ Mini.hash signed (some name) ∧ Mini.hash signed (some name) < 2*defaultPortMin) ↔ Meets signed name := by
  have range : ∀ hash : UInt16, defaultPortMin ≤ portOf hash ∧ portOf hash < 2*defaultPortMin := by
    intro hash
    have value := toNat_portOf hash
    have double : (2*defaultPortMin).toNat = 20000 := rfl
    have single : defaultPortMin.toNat = 10000 := rfl
    rw [UInt16.le_iff_toNat_le,UInt16.lt_iff_toNat_lt,single,double]
    omega
  simp only [Socket.hash,Mini.hash,range,and_true]
  cases name with
  | nil =>
    have stopped : ofChar signed 0 = 0 := by cases signed <;> rfl
    simp only [List.headD_nil,Socket.hashLoop,Mini.hashLoop,stopped,ne_eq,not_true_eq_false,if_false,Meets]
  | cons char name =>
    rw [List.headD_cons,portOf_eq_iff,toNat_socket_hashLoop terminated,toNat_hashLoop terminated]
    simp only [Meets]
    have seed : defaultHashSeed.toNat = 5381 := rfl
    rw [seed,List.length_cons]
    have small : shift signed char (name.length+1) < 2^16 := Nat.mod_lt _ (by decide)
    generalize shift signed char (name.length+1) = shifted at *
    generalize bound : (9^(name.length+1)*5381+polynomial signed (char :: name)) % 2^16 = sum
    have limit : sum < 2^16 := bound ▸ Nat.mod_lt _ (by decide)
    clear bound
    split
    · have whole : (sum+shifted) % 2^16 = sum+shifted := by omega
      rw [whole]
      omega
    · have wrapped : (sum+shifted) % 2^16 = sum+shifted-2^16 := by omega
      rw [wrapped]
      omega

/-- An x and 104 times a d. -/
def longName : List UInt8 := 120 :: List.replicate 104 100

theorem ports_meet_iff_long : Socket.hash true (some longName) = Mini.hash true (some longName) ∧ Mini.hash true (some longName) = 15285 := by
  have terminated : 0 ∉ longName := by decide +kernel
  refine ⟨((ports_meet_iff true terminated).mpr ?met).1,by decide +kernel⟩
  rw [longName,Meets]
  decide +kernel

/-- The name "a". -/
theorem ports_apart : Socket.hash true (some [97]) = 13615 ∧ Mini.hash true (some [97]) = 18526 := by
  decide

end CommunicationIpc.SocketHash
