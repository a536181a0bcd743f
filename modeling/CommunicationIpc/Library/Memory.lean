import Mathlib.Algebra.Order.Ring.Int
import Mathlib.Data.List.Basic

/-! A flat byte-addressed memory with little-endian words. Reading after a write
returns what was written, and a write leaves every range it does not touch alone. -/
namespace CommunicationIpc.Library

abbrev Memory := Nat → UInt8

def ofLE : List UInt8 → Nat
  | [] => 0
  | byte :: bytes => byte.toNat+256*ofLE bytes

def toLE : Nat → Nat → List UInt8
  | 0,_ => []
  | width+1,value => UInt8.ofNat (value % 256) :: toLE width (value/256)

namespace Memory

def readBytes (memory : Memory) (address count : Nat) : List UInt8 :=
  (List.range count).map fun i => memory (address+i)

def writeBytes (memory : Memory) (address : Nat) (bytes : List UInt8) : Memory := fun i =>
  if address ≤ i then (bytes[i-address]?).getD (memory i) else memory i

def read (memory : Memory) (address width : Nat) : Nat := ofLE (memory.readBytes address width)

def write (memory : Memory) (address width value : Nat) : Memory :=
  memory.writeBytes address (toLE width value)

def shift (memory : Memory) (base : Nat) : Memory := fun i => memory (base+i)

def ofBytes (bytes : List UInt8) : Memory := fun i => bytes.getD i 0

end Memory

theorem toLE_length (width value : Nat) : (toLE width value).length = width := by
  induction width generalizing value with
  | zero => rfl
  | succ width ih => simp only [toLE,List.length_cons,ih]

theorem toLE_take (width more value : Nat) : (toLE (width+more) value).take width = toLE width value := by
  induction width generalizing value with
  | zero => rw [List.take_zero,toLE]
  | succ width ih => rw [Nat.add_right_comm,toLE,toLE,List.take_succ_cons,ih]

theorem ofLE_toLE (width value : Nat) : ofLE (toLE width value) = value % 256^width := by
  induction width generalizing value with
  | zero => simp [toLE,ofLE,Nat.mod_one]
  | succ width ih =>
    have byte : (UInt8.ofNat (value % 256)).toNat = value % 256 := by simp
    rw [toLE,ofLE,ih,byte,Nat.pow_succ,Nat.mul_comm (256^width) 256,Nat.mod_mul]

theorem ofLE_lt (bytes : List UInt8) : ofLE bytes < 256^bytes.length := by
  induction bytes with
  | nil => simp [ofLE]
  | cons byte bytes ih =>
    have small : byte.toNat < 256 := byte.toNat_lt
    rw [ofLE,List.length_cons,Nat.pow_succ]
    omega

namespace Memory

theorem readBytes_length (memory : Memory) (address count : Nat) :
    (memory.readBytes address count).length = count := by
  simp only [readBytes,List.length_map,List.length_range]

theorem read_lt (memory : Memory) (address width : Nat) : memory.read address width < 256^width := by
  have bound := ofLE_lt (memory.readBytes address width)
  rwa [readBytes_length] at bound

theorem writeBytes_outside {memory : Memory} {address i : Nat} {bytes : List UInt8}
    (outside : i < address ∨ address+bytes.length ≤ i) : memory.writeBytes address bytes i = memory i := by
  unfold writeBytes
  split
  · rw [List.getElem?_eq_none (by omega)]
    rfl
  · rfl

theorem writeBytes_nil (memory : Memory) (address : Nat) : memory.writeBytes address [] = memory := by
  funext i
  exact writeBytes_outside (by simp only [List.length_nil]; omega)

theorem writeBytes_append (memory : Memory) (address : Nat) (first second : List UInt8) :
    (memory.writeBytes address first).writeBytes (address+first.length) second = memory.writeBytes address (first ++ second) := by
  funext i
  simp only [writeBytes]
  by_cases low : address ≤ i
  · rw [if_pos low,if_pos low,List.getElem?_append]
    split
    · rw [if_neg (by omega),List.getElem?_eq_none (show first.length ≤ i-address by omega),Option.getD_none,Nat.sub_sub]
    · rw [if_pos (by omega)]
  · rw [if_neg (by omega),if_neg low,if_neg low]

theorem writeBytes_over (memory : Memory) (address : Nat) (below above : List UInt8) :
    (memory.writeBytes address below).writeBytes address above =
      memory.writeBytes address (above ++ below.drop above.length) := by
  funext i
  simp only [writeBytes]
  by_cases low : address ≤ i
  · rw [if_pos low,if_pos low,if_pos low,List.getElem?_append]
    split
    · rw [List.getElem?_eq_getElem (by omega)]
      rfl
    · rw [List.getElem?_eq_none (by omega),List.getElem?_drop,Option.getD_none]
      congr 2
      omega
  · rw [if_neg low,if_neg low,if_neg low]

theorem readBytes_congr {memory other : Memory} {address count : Nat}
    (same : ∀ i, address ≤ i → i < address+count → memory i = other i) :
    memory.readBytes address count = other.readBytes address count := by
  apply List.map_congr_left
  intro i member
  have bound := List.mem_range.mp member
  exact same _ (by omega) (by omega)

theorem read_congr {memory other : Memory} {address width : Nat}
    (same : ∀ i, address ≤ i → i < address+width → memory i = other i) :
    memory.read address width = other.read address width := by
  rw [read,readBytes_congr same,read]

theorem readBytes_moved {memory other : Memory} {address source count : Nat}
    (same : ∀ i < count, memory (address+i) = other (source+i)) : memory.readBytes address count = other.readBytes source count := by
  apply List.map_congr_left
  intro i member
  exact same i (List.mem_range.mp member)

theorem read_moved {memory other : Memory} {address source width : Nat}
    (same : ∀ i < width, memory (address+i) = other (source+i)) : memory.read address width = other.read source width := by
  rw [read,readBytes_moved same,read]

theorem read_zero {memory : Memory} {address width : Nat} (zero : ∀ i < width, memory (address+i) = 0) : memory.read address width = 0 := by
  have zeros : ∀ bytes : List UInt8, (∀ byte ∈ bytes, byte = 0) → ofLE bytes = 0 := by
    intro bytes
    induction bytes with
    | nil => exact fun _ => rfl
    | cons byte bytes ih =>
      intro all
      rw [ofLE,all byte List.mem_cons_self,ih fun other member => all other (List.mem_cons_of_mem _ member)]
      rfl
  apply zeros
  intro byte member
  obtain ⟨i,inside,rfl⟩ := List.mem_map.mp member
  exact zero i (List.mem_range.mp inside)

theorem readBytes_writeBytes (memory : Memory) (address : Nat) (bytes : List UInt8) :
    (memory.writeBytes address bytes).readBytes address bytes.length = bytes := by
  apply List.ext_getElem
  · rw [readBytes_length]
  · intro i bound inside
    simp only [readBytes,List.getElem_map,List.getElem_range,writeBytes,Nat.le_add_right,if_true,
      Nat.add_sub_cancel_left,List.getElem?_eq_getElem inside,Option.getD_some]

theorem writeBytes_copied (memory other : Memory) (address source : Nat) {count i : Nat} (inside : i < count) :
    memory.writeBytes address (other.readBytes source count) (address+i) = other (source+i) := by
  simp only [writeBytes,Nat.le_add_right,if_true,Nat.add_sub_cancel_left,readBytes,List.getElem?_map,List.getElem?_range inside,
    Option.map_some,Option.getD_some]

theorem writeBytes_filled (memory : Memory) (address : Nat) (value : UInt8) {count i : Nat} (inside : i < count) :
    memory.writeBytes address (List.replicate count value) (address+i) = value := by
  simp only [writeBytes,Nat.le_add_right,if_true,Nat.add_sub_cancel_left,List.getElem?_replicate,inside,Option.getD_some]

theorem read_write (memory : Memory) (address width value : Nat) :
    (memory.write address width value).read address width = value % 256^width := by
  have back := readBytes_writeBytes memory address (toLE width value)
  rw [toLE_length] at back
  rw [read,write,back,ofLE_toLE]

theorem write_outside {memory : Memory} {address width value i : Nat}
    (outside : i < address ∨ address+width ≤ i) : memory.write address width value i = memory i := by
  apply writeBytes_outside
  rwa [toLE_length]

theorem readBytes_add (memory : Memory) (address first second : Nat) :
    memory.readBytes address (first+second) = memory.readBytes address first ++ memory.readBytes (address+first) second := by
  simp only [readBytes,List.range_add,List.map_append,List.map_map]
  congr 1
  apply List.map_congr_left
  intro i _
  simp only [Function.comp_apply,Nat.add_assoc]

theorem readBytes_parts {memory : Memory} {address : Nat} {first second : List UInt8}
    (there : memory.readBytes address (first ++ second).length = first ++ second) :
    memory.readBytes address first.length = first ∧ memory.readBytes (address+first.length) second.length = second := by
  rw [List.length_append,readBytes_add] at there
  exact List.append_inj there (readBytes_length _ _ _)

theorem getElem?_readBytes {memory : Memory} {address count i : Nat} (inside : i < count) :
    (memory.readBytes address count)[i]? = some (memory (address+i)) := by
  simp only [readBytes,List.getElem?_map,List.getElem?_range inside,Option.map_some]

theorem ofBytes_readBytes {memory : Memory} {address count i : Nat} (inside : i < count) :
    ofBytes (memory.readBytes address count) i = memory.shift address i := by
  simp only [ofBytes,List.getD_eq_getElem?_getD,getElem?_readBytes inside,Option.getD_some,shift]

theorem readBytes_ofBytes (bytes : List UInt8) : (ofBytes bytes).readBytes 0 bytes.length = bytes := by
  apply List.ext_getElem
  · rw [readBytes_length]
  · intro i _ inside
    simp only [readBytes,List.getElem_map,List.getElem_range,ofBytes,Nat.zero_add,List.getD_eq_getElem?_getD,
      List.getElem?_eq_getElem inside,Option.getD_some]

section Apart
variable {memory : Memory} {address width value other count : Nat}

theorem readBytes_write_apart (apart : other+count ≤ address ∨ address+width ≤ other) :
    (memory.write address width value).readBytes other count = memory.readBytes other count :=
  readBytes_congr fun _ _ _ => write_outside (by omega)

theorem readBytes_writeBytes_apart {bytes : List UInt8} (apart : other+count ≤ address ∨ address+bytes.length ≤ other) :
    (memory.writeBytes address bytes).readBytes other count = memory.readBytes other count :=
  readBytes_congr fun _ _ _ => writeBytes_outside (by omega)

theorem read_write_apart (apart : other+count ≤ address ∨ address+width ≤ other) :
    (memory.write address width value).read other count = memory.read other count := by
  rw [read,readBytes_write_apart apart,read]

theorem read_writeBytes_apart {bytes : List UInt8} (apart : other+count ≤ address ∨ address+bytes.length ≤ other) :
    (memory.writeBytes address bytes).read other count = memory.read other count := by
  rw [read,readBytes_writeBytes_apart apart,read]

end Apart

theorem read_writeBytes_table (memory : Memory) (address width : Nat) {words : List Nat} {i word : Nat} (at_ : words[i]? = some word) :
    (memory.writeBytes address (words.flatMap (toLE width))).read (address+i*width) width = word % 256^width := by
  induction words generalizing memory address i with
  | nil => cases at_
  | cons first words ih =>
    have split := writeBytes_append memory address (toLE width first) (words.flatMap (toLE width))
    rw [toLE_length] at split
    rw [List.flatMap_cons,← split]
    cases i with
    | zero =>
      cases at_
      rw [Nat.zero_mul,Nat.add_zero,read_writeBytes_apart (.inl (Nat.le_refl _))]
      exact read_write memory address width _
    | succ i =>
      rw [Nat.succ_mul,Nat.add_comm (i*width),← Nat.add_assoc]
      exact ih _ _ at_

theorem read_writeBytes_inside (memory : Memory) (address : Nat) {bytes : List UInt8} {offset width : Nat}
    (inside : offset+width ≤ bytes.length) : (memory.writeBytes address bytes).read (address+offset) width = (ofBytes bytes).read offset width := by
  rw [read,read]
  refine congrArg ofLE (List.map_congr_left ?_)
  intro i member
  have bound := List.mem_range.mp member
  rw [Nat.add_assoc,writeBytes,if_pos (Nat.le_add_right _ _),Nat.add_sub_cancel_left,ofBytes,List.getD_eq_getElem?_getD,
    List.getElem?_eq_getElem (by omega)]
  rfl

theorem write_congr {memory other : Memory} {i : Nat} (same : memory i = other i) (address width value : Nat) :
    memory.write address width value i = other.write address width value i := by
  simp only [write,writeBytes,same]

theorem write_zero_byte (memory : Memory) (address : Nat) : memory.write address 1 0 address = 0 := by
  simp [write,writeBytes,toLE]

end Memory

end CommunicationIpc.Library
