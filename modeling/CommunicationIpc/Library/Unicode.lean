import Mathlib.Data.List.Basic

/-! Texts of 16-bit units and of bytes: UTF-16 read, UTF-8 written. What a text of units means determines it, and a unit that is no
surrogate splits it. -/
namespace CommunicationIpc.Library

def isHigh (unit : UInt16) : Bool := decide (0xd800 ≤ unit.toNat ∧ unit.toNat < 0xdc00)
def isLow (unit : UInt16) : Bool := decide (0xdc00 ≤ unit.toNat ∧ unit.toNat < 0xe000)
def isSurrogate (unit : UInt16) : Bool := isHigh unit || isLow unit

def pairOf (high low : Nat) : Nat := 0x10000+(high-0xd800)*0x400+(low-0xdc00)

/-- The characters of a text, none where surrogates are not paired. -/
def ofUtf16 : List UInt16 → Option (List Char)
  | [] => some []
  | [unit] => if isSurrogate unit then none else some [Char.ofNat unit.toNat]
  | unit :: next :: rest =>
    if isSurrogate unit then
      if isHigh unit && isLow next then (ofUtf16 rest).map (Char.ofNat (pairOf unit.toNat next.toNat) :: ·) else none
    else (ofUtf16 (next :: rest)).map (Char.ofNat unit.toNat :: ·)

def toUtf16 (char : Char) : List UInt16 :=
  if char.toNat < 0x10000 then [UInt16.ofNat char.toNat]
  else [UInt16.ofNat (0xd800+(char.toNat-0x10000)/0x400),UInt16.ofNat (0xdc00+(char.toNat-0x10000) % 0x400)]

def utf8 (chars : List Char) : List UInt8 := chars.flatMap String.utf8EncodeChar

section Utf16

theorem toNat_char {number : Nat} (valid : number.isValidChar) : (Char.ofNat number).toNat = number := by
  rw [Char.ofNat,dif_pos valid]
  exact BitVec.toNat_ofNatLT ..

theorem ofUtf16_cons {unit : UInt16} (plain : isSurrogate unit = false) (rest : List UInt16) :
    ofUtf16 (unit :: rest) = (ofUtf16 rest).map (Char.ofNat unit.toNat :: ·) := by
  cases rest with
  | nil => simp only [ofUtf16,plain,Bool.false_eq_true,if_false,Option.map_some]
  | cons next rest => simp only [ofUtf16,plain,Bool.false_eq_true,if_false]

theorem toUtf16_unit {unit : UInt16} (plain : isSurrogate unit = false) : toUtf16 (Char.ofNat unit.toNat) = [unit] := by
  have small := unit.toNat_lt
  have valid : unit.toNat.isValidChar := by
    simp only [isSurrogate,isHigh,isLow,Bool.or_eq_false_iff,decide_eq_false_iff_not] at plain
    simp only [Nat.isValidChar]
    omega
  have value : (Char.ofNat unit.toNat).toNat = unit.toNat := toNat_char valid
  rw [toUtf16,value,if_pos (by omega),UInt16.ofNat_toNat]

theorem pairOf_parts {high low : Nat} (first : 0xd800 ≤ high ∧ high < 0xdc00) (second : 0xdc00 ≤ low ∧ low < 0xe000) :
    (pairOf high low).isValidChar ∧ 0x10000 ≤ pairOf high low ∧
      0xd800+(pairOf high low-0x10000)/0x400 = high ∧ 0xdc00+(pairOf high low-0x10000) % 0x400 = low := by
  unfold pairOf Nat.isValidChar
  omega

theorem toUtf16_pair {high low : UInt16} (first : isHigh high = true) (second : isLow low = true) :
    toUtf16 (Char.ofNat (pairOf high.toNat low.toNat)) = [high,low] := by
  obtain ⟨valid,above,front,back⟩ := pairOf_parts (of_decide_eq_true first) (of_decide_eq_true second)
  have value : (Char.ofNat (pairOf high.toNat low.toNat)).toNat = pairOf high.toNat low.toNat := toNat_char valid
  rw [toUtf16,value,if_neg (Nat.not_lt.mpr above),front,back,UInt16.ofNat_toNat,UInt16.ofNat_toNat]

theorem toUtf16_ofUtf16 {text : List UInt16} {chars : List Char} (decoded : ofUtf16 text = some chars) : chars.flatMap toUtf16 = text := by
  fun_induction ofUtf16 text generalizing chars with
  | case1 =>
    cases decoded
    rfl
  | case2 unit surrogate => cases decoded
  | case3 unit plain =>
    cases decoded
    rw [List.flatMap_singleton]
    exact toUtf16_unit (Bool.eq_false_iff.mpr plain)
  | case4 unit next rest surrogate paired ih =>
    obtain ⟨tail,later,rfl⟩ := Option.map_eq_some_iff.mp decoded
    obtain ⟨high,low⟩ := Bool.and_eq_true_iff.mp paired
    rw [List.flatMap_cons,toUtf16_pair high low,ih later]
    rfl
  | case5 unit next rest surrogate alone => cases decoded
  | case6 unit next rest plain ih =>
    obtain ⟨tail,later,rfl⟩ := Option.map_eq_some_iff.mp decoded
    rw [List.flatMap_cons,toUtf16_unit (Bool.eq_false_iff.mpr plain),ih later]
    rfl

theorem ofUtf16_injective {left right : List UInt16} {chars : List Char} (first : ofUtf16 left = some chars)
    (second : ofUtf16 right = some chars) : left = right := by
  rw [← toUtf16_ofUtf16 first,toUtf16_ofUtf16 second]

theorem ofUtf16_split {unit : UInt16} (plain : isSurrogate unit = false) (front back : List UInt16) :
    ofUtf16 (front ++ unit :: back) =
      (ofUtf16 front).bind fun first => (ofUtf16 back).map fun second => first ++ Char.ofNat unit.toNat :: second := by
  fun_induction ofUtf16 front with
  | case1 => exact ofUtf16_cons plain back
  | case2 only surrogate =>
    have single : isLow unit = false := (Bool.or_eq_false_iff.mp plain).2
    simp only [List.cons_append,List.nil_append,ofUtf16,surrogate,if_true,single,Bool.and_false,Bool.false_eq_true,if_false,
      Option.bind_none]
  | case3 only ordinary =>
    rw [List.cons_append,List.nil_append,ofUtf16_cons (Bool.eq_false_iff.mpr ordinary),ofUtf16_cons plain,Option.map_map]
    rfl
  | case4 only next rest surrogate paired ih =>
    simp only [List.cons_append,ofUtf16,surrogate,if_true,paired]
    rw [ih]
    cases ofUtf16 rest with
    | none => rfl
    | some first => cases ofUtf16 back <;> rfl
  | case5 only next rest surrogate alone =>
    simp only [List.cons_append,ofUtf16,surrogate,if_true,if_neg alone]
    rfl
  | case6 only next rest ordinary ih =>
    rw [List.cons_append,ofUtf16_cons (Bool.eq_false_iff.mpr ordinary),ih]
    cases ofUtf16 (next :: rest) with
    | none => rfl
    | some first => cases ofUtf16 back <;> rfl

end Utf16

section Utf8

theorem utf8_injective {left right : List Char} (same : utf8 left = utf8 right) : left = right := by
  have bytes : left.utf8Encode = right.utf8Encode := congrArg List.toByteArray same
  have decoded := congrArg ByteArray.utf8Decode? bytes
  rw [List.utf8Decode?_utf8Encode,List.utf8Decode?_utf8Encode] at decoded
  exact List.toArray_inj (Option.some.inj decoded)

theorem utf8_append (left right : List Char) : utf8 (left ++ right) = utf8 left ++ utf8 right := List.flatMap_append

/-- Below 128 a byte stands for the character with its number only. -/
theorem mem_utf8EncodeChar {byte : UInt8} {char : Char} (ascii : byte.toNat < 128) :
    byte ∈ String.utf8EncodeChar char ↔ char.toNat = byte.toNat := by
  have above : ∀ {number : Nat}, 128 ≤ number → number < 256 → byte ≠ UInt8.ofNat number := by
    intro number low high same
    rw [same,UInt8.toNat_ofNat',Nat.mod_eq_of_lt high] at ascii
    omega
  have value : char.toNat = char.val.toNat := rfl
  rw [value]
  unfold String.utf8EncodeChar
  generalize char.val.toNat = number
  dsimp only
  split
  · rename_i one
    rw [List.mem_singleton]
    constructor
    · intro same
      rw [same,UInt8.toNat_ofNat',Nat.mod_eq_of_lt (by omega)]
    · intro same
      rw [same,UInt8.ofNat_toNat]
  · rename_i more
    have differ : number ≠ byte.toNat := by omega
    refine iff_of_false ?_ differ
    split
    · simp only [List.mem_cons,List.not_mem_nil,or_false,not_or]
      exact ⟨above (by omega) (by omega),above (by omega) (by omega)⟩
    · split
      · simp only [List.mem_cons,List.not_mem_nil,or_false,not_or]
        exact ⟨above (by omega) (by omega),above (by omega) (by omega),above (by omega) (by omega)⟩
      · simp only [List.mem_cons,List.not_mem_nil,or_false,not_or]
        exact ⟨above (by omega) (by omega),above (by omega) (by omega),above (by omega) (by omega),above (by omega) (by omega)⟩

theorem mem_utf8_ofUtf16 {text : List UInt16} {chars : List Char} (decoded : ofUtf16 text = some chars) {unit : UInt16} {byte : UInt8}
    (ascii : byte.toNat < 128) (same : unit.toNat = byte.toNat) : byte ∈ utf8 chars ↔ unit ∈ text := by
  have plain : isSurrogate unit = false := by
    have high : ¬(0xd800 ≤ unit.toNat ∧ unit.toNat < 0xdc00) := by omega
    have low : ¬(0xdc00 ≤ unit.toNat ∧ unit.toNat < 0xe000) := by omega
    rw [isSurrogate,isHigh,isLow,decide_eq_false high,decide_eq_false low]
    rfl
  constructor
  · intro member
    obtain ⟨char,at_,inside⟩ := List.mem_flatMap.mp member
    have number := (mem_utf8EncodeChar ascii).mp inside
    rw [← toUtf16_ofUtf16 decoded]
    refine List.mem_flatMap.mpr ⟨char,at_,?_⟩
    rw [toUtf16,if_pos (by omega),List.mem_singleton,number,← same,UInt16.ofNat_toNat]
  · intro member
    obtain ⟨front,back,rfl⟩ := List.append_of_mem member
    rw [ofUtf16_split plain] at decoded
    obtain ⟨first,-,rest⟩ := Option.bind_eq_some_iff.mp decoded
    obtain ⟨second,-,rfl⟩ := Option.map_eq_some_iff.mp rest
    have valid : unit.toNat.isValidChar := .inl (by omega)
    refine List.mem_flatMap.mpr ⟨Char.ofNat unit.toNat,List.mem_append_right _ List.mem_cons_self,?_⟩
    rw [mem_utf8EncodeChar ascii,toNat_char valid,same]

end Utf8

end CommunicationIpc.Library
