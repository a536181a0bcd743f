import CommunicationIpc.Library.Memory

/-! Scalar types of a fixed width of at most eight bytes, as they lie in memory: a value is its bits,
low byte first. An array is the bytes of its elements, one after the other. -/
namespace CommunicationIpc.Library

class Word (α : Type) where
  width : Nat
  bits : α → Nat
  ofBits : Nat → α
  width_le : width ≤ 8
  bits_lt : ∀ value, bits value < 256^width
  ofBits_bits : ∀ value, ofBits (bits value) = value

instance : Word UInt8 := ⟨1,UInt8.toNat,UInt8.ofNat,by decide,UInt8.toNat_lt,fun _ => UInt8.ofNat_toNat⟩
instance : Word UInt16 := ⟨2,UInt16.toNat,UInt16.ofNat,by decide,UInt16.toNat_lt,fun _ => UInt16.ofNat_toNat⟩
instance : Word UInt32 := ⟨4,UInt32.toNat,UInt32.ofNat,by decide,UInt32.toNat_lt,fun _ => UInt32.ofNat_toNat⟩
instance : Word UInt64 := ⟨8,UInt64.toNat,UInt64.ofNat,by decide,UInt64.toNat_lt,fun _ => UInt64.ofNat_toNat⟩

instance : Word Int8 :=
  ⟨1,fun value => value.toUInt8.toNat,fun bits => (UInt8.ofNat bits).toInt8,by decide,fun value => value.toUInt8.toNat_lt,
    fun value => by rw [UInt8.ofNat_toNat,Int8.toInt8_toUInt8]⟩
instance : Word Int16 :=
  ⟨2,fun value => value.toUInt16.toNat,fun bits => (UInt16.ofNat bits).toInt16,by decide,fun value => value.toUInt16.toNat_lt,
    fun value => by rw [UInt16.ofNat_toNat,Int16.toInt16_toUInt16]⟩
instance : Word Int32 :=
  ⟨4,fun value => value.toUInt32.toNat,fun bits => (UInt32.ofNat bits).toInt32,by decide,fun value => value.toUInt32.toNat_lt,
    fun value => by rw [UInt32.ofNat_toNat,Int32.toInt32_toUInt32]⟩
instance : Word Int64 :=
  ⟨8,fun value => value.toUInt64.toNat,fun bits => (UInt64.ofNat bits).toInt64,by decide,fun value => value.toUInt64.toNat_lt,
    fun value => by rw [UInt64.ofNat_toNat,Int64.toInt64_toUInt64]⟩

instance : Word Bool :=
  ⟨1,Bool.toNat,fun bits => bits != 0,by decide,fun value => by cases value <;> decide,fun value => by cases value <;> rfl⟩

namespace Word

def bytes {α : Type} [Word α] (value : α) : List UInt8 := toLE (width α) (bits value)

def array {α : Type} [Word α] (values : List α) : List UInt8 := values.flatMap bytes

variable {α : Type} [Word α]

theorem bytes_length (value : α) : (bytes value).length = width α := toLE_length _ _

theorem array_length (values : List α) : (array values).length = values.length*width α := by
  induction values with
  | nil => simp [array]
  | cons value values ih =>
    simp only [array,List.flatMap_cons,List.length_append,List.length_cons,bytes_length] at ih ⊢
    rw [ih,Nat.add_mul,Nat.one_mul,Nat.add_comm]

end Word

namespace Memory

def load (α : Type) [Word α] (memory : Memory) (address : Nat) : α := Word.ofBits (memory.read address (Word.width α))

def store {α : Type} [Word α] (memory : Memory) (address : Nat) (value : α) : Memory :=
  memory.writeBytes address (Word.bytes value)

/-- The `count` elements of an array at `address`. -/
def loads (α : Type) [Word α] (memory : Memory) (address count : Nat) : List α :=
  (List.range count).map fun i => memory.load α (address+i*Word.width α)

variable {α : Type} [Word α] {memory : Memory} {address : Nat}

theorem load_of_bytes {value : α} (there : memory.readBytes address (Word.width α) = Word.bytes value) :
    memory.load α address = value := by
  rw [load,read,there,Word.bytes,ofLE_toLE,Nat.mod_eq_of_lt (Word.bits_lt value),Word.ofBits_bits]

theorem load_of_front {β : Type} [Word β] {wide : β} {value : α} (there : memory.readBytes address (Word.width β) = Word.bytes wide)
    (narrower : Word.width α ≤ Word.width β) (narrow : Word.ofBits (Word.bits wide % 256^Word.width α) = value) :
    memory.load α address = value := by
  obtain ⟨more,width⟩ := Nat.exists_eq_add_of_le narrower
  have front : memory.readBytes address (Word.width α) = toLE (Word.width α) (Word.bits wide) := by
    rw [← toLE_take _ more,← width]
    show _ = (Word.bytes wide).take (Word.width α)
    rw [← there,width,readBytes_add]
    exact (List.take_left' (readBytes_length _ _ _)).symm
  rw [load,read,front,ofLE_toLE,narrow]

theorem loads_succ (address count : Nat) :
    memory.loads α address (count+1) = memory.load α address :: memory.loads α (address+Word.width α) count := by
  simp only [loads,List.range_succ_eq_map,List.map_cons,List.map_map,Nat.zero_mul,Nat.add_zero]
  congr 1
  apply List.map_congr_left
  intro i _
  simp only [Function.comp_apply,Nat.succ_eq_add_one,Nat.add_mul,Nat.one_mul]
  congr 1
  omega

theorem load_congr {other : Memory} (same : ∀ i, address ≤ i → i < address+Word.width α → memory i = other i) :
    memory.load α address = other.load α address := by
  rw [load,read_congr same,load]

theorem loads_congr {other : Memory} {count : Nat} (same : ∀ i, address ≤ i → i < address+count*Word.width α → memory i = other i) :
    memory.loads α address count = other.loads α address count := by
  apply List.map_congr_left
  intro i member
  have inside := Nat.mul_le_mul_right (Word.width α) (Nat.succ_le_of_lt (List.mem_range.mp member))
  rw [Nat.succ_mul] at inside
  exact load_congr fun x low high => same x (by omega) (by omega)

theorem loads_length (address count : Nat) : (memory.loads α address count).length = count := by
  rw [loads,List.length_map,List.length_range]

theorem loads_add (address first second : Nat) :
    memory.loads α address (first+second) = memory.loads α address first ++ memory.loads α (address+first*Word.width α) second := by
  simp only [loads,List.range_add,List.map_append,List.map_map]
  congr 1
  apply List.map_congr_left
  intro i _
  simp only [Function.comp_apply,Nat.add_mul,Nat.add_assoc]

theorem loads_of_bytes {values : List α}
    (there : memory.readBytes address (values.length*Word.width α) = Word.array values) :
    memory.loads α address values.length = values := by
  induction values generalizing address with
  | nil => rfl
  | cons value values ih =>
    rw [List.length_cons,Nat.add_mul,Nat.one_mul,Nat.add_comm,readBytes_add] at there
    have front : (memory.readBytes address (Word.width α)).length = (Word.bytes value).length := by
      rw [readBytes_length,Word.bytes_length]
    rw [Word.array,List.flatMap_cons] at there
    obtain ⟨first,rest⟩ := List.append_inj there front
    rw [List.length_cons,loads_succ,load_of_bytes first,ih rest]

end Memory

end CommunicationIpc.Library
