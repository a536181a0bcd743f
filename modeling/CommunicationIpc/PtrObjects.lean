import CommunicationIpc.Kernel.Marshal

/-! The removal of dbinder pointer objects from a package, described on the pieces that its payload is made of. -/
namespace CommunicationIpc.PtrObjects
open CommunicationIpc.Library CommunicationIpc.Kernel.Package CommunicationIpc.Kernel.Translate CommunicationIpc.Kernel.Marshal

/-- A stretch of the payload: an object that the table lists, or other bytes. -/
structure Piece where
  object : Bool
  content : List UInt8
deriving DecidableEq

def header (content : List UInt8) : Nat := ofLE (content.take 4)

def Piece.ptr (piece : Piece) : Bool := piece.object && decide (header piece.content = binderTypePtr)

def payload (pieces : List Piece) : List UInt8 := pieces.flatMap Piece.content

/-- Where the objects lie. -/
def offsets (start : Nat) : List Piece → List Nat
  | [] => []
  | piece :: pieces =>
    let rest := offsets (start+piece.content.length) pieces
    if piece.object then start :: rest else rest

def objects (pieces : List Piece) : Nat := pieces.countP Piece.object

def ptrs (pieces : List Piece) : Nat := pieces.countP Piece.ptr

def survivors (pieces : List Piece) : List Piece := pieces.filter fun piece => !piece.ptr

/-- The next object is no pointer object. -/
def Followed : List Piece → Prop
  | [] => False
  | piece :: pieces => if piece.object then piece.ptr = false else Followed pieces

/-- Objects have a header, pointer objects their size, and behind a pointer object its own object is the next one. -/
def WellFormed : List Piece → Prop
  | [] => True
  | piece :: pieces =>
    (piece.object = true → 4 ≤ piece.content.length) ∧
      (piece.ptr = true → piece.content.length = binderBufferObjectSize ∧ Followed pieces) ∧ WellFormed pieces

instance decidableFollowed : (pieces : List Piece) → Decidable (Followed pieces)
  | [] => inferInstanceAs (Decidable False)
  | piece :: pieces =>
    have := decidableFollowed pieces
    inferInstanceAs (Decidable (if piece.object then piece.ptr = false else Followed pieces))

instance decidableWellFormed : (pieces : List Piece) → Decidable (WellFormed pieces)
  | [] => inferInstanceAs (Decidable True)
  | piece :: pieces =>
    have := decidableWellFormed pieces
    inferInstanceAs (Decidable ((piece.object = true → 4 ≤ piece.content.length) ∧
      (piece.ptr = true → piece.content.length = binderBufferObjectSize ∧ Followed pieces) ∧ WellFormed pieces))

/-- `sizeOfSelf`, with room for a session for each object. -/
def sizeOf (pieces : List Piece) : Nat :=
  headerSize+(payload pieces).length+objects pieces*binderSize+objects pieces*flatSessionLen

/-- A package that holds the pieces: its header, its payload and its table. -/
structure Holds (memory : Memory) (pieces : List Piece) : Prop where
  sizeOfSelf : memory.read 0 4 = sizeOf pieces
  bufferSize : memory.read 40 8 = (payload pieces).length
  offsetsSize : memory.read 48 8 = objects pieces*binderSize
  offsets : memory.read 56 8 = (payload pieces).length
  bytes : memory.readBytes headerSize (payload pieces).length = payload pieces
  table : ∀ (i : Nat) offset, (PtrObjects.offsets 0 pieces)[i]? = some offset →
    memory.read (headerSize+(payload pieces).length+i*binderSize) binderSize = offset

/-- What `memcpy_s` can fill. -/
def Fits (pieces : List Piece) : Prop := sizeOf pieces ≤ headerSize+secureMemMaxLen

instance decidableFits (pieces : List Piece) : Decidable (Fits pieces) := inferInstanceAs (Decidable (_ ≤ _))

section Layout
variable {start : Nat} {piece : Piece} {pieces more : List Piece}

theorem offsets_append (start : Nat) (pieces more : List Piece) :
    offsets start (pieces ++ more) = offsets start pieces ++ offsets (start+(payload pieces).length) more := by
  induction pieces generalizing start with
  | nil => rfl
  | cons piece pieces ih =>
    have length : start+(payload (piece :: pieces)).length = start+piece.content.length+(payload pieces).length := by
      rw [payload,List.flatMap_cons,List.length_append,Nat.add_assoc]
      rfl
    simp only [List.cons_append,offsets,ih,length]
    split <;> rfl

theorem offsets_length (start : Nat) (pieces : List Piece) : (offsets start pieces).length = objects pieces := by
  induction pieces generalizing start with
  | nil => rfl
  | cons piece pieces ih =>
    simp only [offsets,objects,List.countP_cons]
    split
    · rw [List.length_cons,ih]
      rfl
    · rw [ih]
      rfl

theorem offsets_shift (start amount : Nat) (pieces : List Piece) : offsets (start+amount) pieces = (offsets start pieces).map (·+amount) := by
  induction pieces generalizing start with
  | nil => rfl
  | cons piece pieces ih =>
    simp only [offsets,Nat.add_right_comm start amount,ih]
    split <;> rfl

theorem payload_append (pieces more : List Piece) : payload (pieces ++ more) = payload pieces ++ payload more :=
  List.flatMap_append

theorem objects_append (pieces more : List Piece) : objects (pieces ++ more) = objects pieces+objects more :=
  List.countP_append

theorem payload_cons (piece : Piece) (pieces : List Piece) : payload (piece :: pieces) = piece.content ++ payload pieces := rfl

theorem objects_cons (object : piece.object = true) (pieces : List Piece) : objects (piece :: pieces) = objects pieces+1 := by
  rw [objects,List.countP_cons_of_pos object]
  rfl

theorem offsets_cons (object : piece.object = true) (start : Nat) (pieces : List Piece) :
    offsets start (piece :: pieces) = start :: offsets (start+piece.content.length) pieces := by
  simp only [offsets,object,if_true]

theorem object_of_ptr (kind : piece.ptr = true) : piece.object = true := (Bool.and_eq_true_iff.mp kind).1

theorem header_of_ptr (kind : piece.ptr = true) : header piece.content = binderTypePtr :=
  of_decide_eq_true (Bool.and_eq_true_iff.mp kind).2

theorem WellFormed.large {pieces : List Piece} (formed : WellFormed pieces) :
    ∀ piece ∈ pieces, piece.object = true → 4 ≤ piece.content.length := by
  induction pieces with
  | nil => exact fun _ member => absurd member List.not_mem_nil
  | cons first pieces ih =>
    obtain ⟨large,-,formed⟩ := formed
    intro piece member
    rcases List.mem_cons.mp member with rfl | later
    · exact large
    · exact ih formed piece later

/-- The object behind a pointer object has a header. -/
theorem Followed.long {pieces : List Piece} (followed : Followed pieces)
    (large : ∀ piece ∈ pieces, piece.object = true → 4 ≤ piece.content.length) : 4 ≤ (payload pieces).length := by
  induction pieces with
  | nil => exact followed.elim
  | cons piece pieces ih =>
    rw [payload_cons,List.length_append]
    rw [Followed] at followed
    split at followed
    · exact Nat.le_add_right_of_le (large piece List.mem_cons_self ‹_›)
    · exact Nat.le_add_left_of_le (ih followed fun piece member => large piece (List.mem_cons_of_mem _ member))

end Layout

section Shift
variable {base count j t x : Nat} {memory : Memory}

theorem sub64_lt (left right : Nat) : sub64 left right < 2^64 := Nat.mod_lt _ (by decide)

theorem sub64_of_le {left right : Nat} (le : right ≤ left) (fits : left < 2^64) : sub64 left right = left-right := by
  simp only [sub64,wrap64]
  omega

theorem shiftOffsets_outside (outside : x < base+j*8 ∨ base+(j+count)*8 ≤ x) : shiftOffsets base count j memory x = memory x := by
  induction count generalizing j memory with
  | zero => rfl
  | succ count ih =>
    rw [shiftOffsets,ih (by omega)]
    exact Memory.write_outside (by simp only [binderSize]; omega)

theorem read_shiftOffsets_outside (outside : t < j ∨ j+count ≤ t) :
    (shiftOffsets base count j memory).read (base+t*8) 8 = memory.read (base+t*8) 8 :=
  Memory.read_congr fun _ _ _ => shiftOffsets_outside (by omega)

theorem read_shiftOffsets (low : j ≤ t) (high : t < j+count) :
    (shiftOffsets base count j memory).read (base+t*8) 8 = sub64 (memory.read (base+(t+1)*8) 8) binderBufferObjectSize := by
  induction count generalizing j memory with
  | zero => omega
  | succ count ih =>
    rw [shiftOffsets]
    rcases Nat.eq_or_lt_of_le low with rfl | later
    · rw [read_shiftOffsets_outside (.inl (by omega))]
      simp only [binderSize]
      rw [Memory.read_write]
      exact Nat.mod_eq_of_lt (sub64_lt _ _)
    · rw [ih later (by omega),Memory.read_write_apart (.inr (by simp only [binderSize]; omega))]

end Shift

section Turn
variable {shifted after : Memory} {start moved x : Nat}

/-- What a removal does to the bytes, the table being updated: those behind the object move forward and leave zeros. -/
structure Cut (shifted after : Memory) (start moved : Nat) : Prop where
  before : ∀ x, headerSize ≤ x → x < headerSize+start → after x = shifted x
  behind : ∀ x < moved, after (headerSize+start+x) = shifted (headerSize+start+binderBufferObjectSize+x)
  cleared : ∀ x < 328, after (headerSize+start+moved+x) = 0
  beyond : ∀ x, headerSize+start+moved+328 ≤ x → after x = shifted x
  kind : ∀ x, 4 ≤ x → x < 40 → after x = shifted x

variable {memory : Memory} {objCount i bufferSize count : Nat}

theorem removePtr_other (bufferSize_ : memory.read 40 8 = bufferSize) {delOffset : Nat}
    (entry : memory.read (headerSize+bufferSize+i*8) 8 = delOffset)
    (other : memory.read (wrap64 (headerSize+delOffset)) 4 ≠ binderTypePtr) : removePtr objCount i memory = some memory := by
  simp only [removePtr,TransactionData.decode,binderSize,bufferSize_,entry]
  exact if_pos other

theorem removePtr_cut (bufferSize_ : memory.read 40 8 = bufferSize) (offsetsSize : memory.read 48 8 = count*8)
    (entry : memory.read (headerSize+bufferSize+i*8) 8 = start) (ptr : memory.read (headerSize+start) 4 = binderTypePtr)
    (inside : start+binderBufferObjectSize < bufferSize) (counted : 0 < count) (fits : bufferSize+count*8 ≤ secureMemMaxLen) :
    ∃ after, removePtr objCount i memory = some after ∧
      Cut (shiftOffsets (headerSize+bufferSize) (objCount-1-i) i memory) after start
        (bufferSize+(count-1)*8-start-binderBufferObjectSize) ∧
      after.read 0 4 = (memory.read 0 4+2^32-328) % 2^32 ∧ after.read 40 8 = bufferSize-binderBufferObjectSize ∧
      after.read 48 8 = (count-1)*8 ∧ after.read 56 8 = bufferSize-binderBufferObjectSize := by
  simp only [binderBufferObjectSize,secureMemMaxLen] at inside fits
  have small : wrap64 (headerSize+start) = headerSize+start := Nat.mod_eq_of_lt (by simp only [headerSize]; omega)
  have table : sub64 (count*8) 8 = (count-1)*8 := by
    rw [sub64_of_le (by omega) (by omega)]
    omega
  have moves : sub64 (sub64 (bufferSize+(count-1)*8) start) 40 = bufferSize+(count-1)*8-start-40 := by
    have first : sub64 (bufferSize+(count-1)*8) start = bufferSize+(count-1)*8-start := sub64_of_le (by omega) (by omega)
    rw [first]
    exact sub64_of_le (by omega) (by omega)
  have shrinks : sub64 bufferSize 40 = bufferSize-40 := sub64_of_le (by omega) (by omega)
  simp only [removePtr,TransactionData.decode,binderSize,bufferSize_,entry,small,ptr,ne_eq,not_true,if_false,offsetsSize,table,
    binderBufferObjectSize,moves,shrinks,flatSessionLen]
  rw [if_neg (by simp only [secureMemMaxLen]; omega)]
  generalize shiftOffsets _ _ _ memory = shifted
  generalize moved : bufferSize+(count-1)*8-start-40 = size
  have ends : headerSize+(bufferSize-40)+(count-1)*8 = headerSize+start+size := by omega
  rw [ends]
  have long : (List.replicate (8+40+280) (0 : UInt8)).length = 328 := List.length_replicate
  simp only [headerSize]
  refine ⟨_,rfl,⟨?_,?_,?_,?_,?_⟩,?_,?_,?_,?_⟩
  · intro x low high
    simp only [headerSize] at low high
    rw [Memory.write_outside (by omega),Memory.writeBytes_outside (by omega),Memory.write_outside (by omega),
      Memory.write_outside (by omega),Memory.writeBytes_outside (by omega),Memory.write_outside (by omega)]
  · intro x inside
    simp only [headerSize]
    rw [Memory.write_outside (by omega),Memory.writeBytes_outside (by omega),Memory.write_outside (by omega),
      Memory.write_outside (by omega),Memory.writeBytes_copied _ _ _ _ inside,Memory.write_outside (by omega)]
    rfl
  · intro x inside
    simp only [headerSize]
    rw [Memory.write_outside (by omega)]
    exact Memory.writeBytes_filled _ _ _ inside
  · intro x high
    simp only [headerSize] at high
    rw [Memory.write_outside (by omega),Memory.writeBytes_outside (by omega),Memory.write_outside (by omega),
      Memory.write_outside (by omega),Memory.writeBytes_outside (by rw [Memory.readBytes_length]; omega),Memory.write_outside (by omega)]
  · intro x low high
    rw [Memory.write_outside (by omega),Memory.writeBytes_outside (by omega),Memory.write_outside (by omega),
      Memory.write_outside (by omega),Memory.writeBytes_outside (by omega),Memory.write_outside (by omega)]
  · rw [Memory.read_write]
    rfl
  · rw [Memory.read_write_apart (by omega),Memory.read_writeBytes_apart (by omega),Memory.read_write_apart (by omega),Memory.read_write]
    omega
  · rw [Memory.read_write_apart (by omega),Memory.read_writeBytes_apart (by omega),Memory.read_write_apart (by omega),
      Memory.read_write_apart (by omega),Memory.read_writeBytes_apart (by omega),Memory.read_write]
    omega
  · rw [Memory.read_write_apart (by omega),Memory.read_writeBytes_apart (by omega),Memory.read_write]
    omega

end Turn

section Shifted
variable {memory after : Memory} {start behind left i objCount t d : Nat}

theorem cut_table (cut : Cut (shiftOffsets (headerSize+(start+(40+behind))) (objCount-1-i) i memory) after start (behind+left*8))
    (inside : t < left) : after.read (headerSize+(start+behind)+t*8) 8 =
      (shiftOffsets (headerSize+(start+(40+behind))) (objCount-1-i) i memory).read (headerSize+(start+(40+behind))+t*8) 8 := by
  refine Memory.read_moved ?_
  intro x below
  have there := cut.behind (behind+t*8+x) (by omega)
  have source : headerSize+start+binderBufferObjectSize+(behind+t*8+x) = headerSize+(start+(40+behind))+t*8+x := by
    simp only [binderBufferObjectSize]
    omega
  rw [source] at there
  rw [← there]
  congr 1
  omega

theorem cut_cleared (cut : Cut (shiftOffsets (headerSize+(start+(40+behind))) (objCount-1-i) i memory) after start (behind+left*8))
    (front : d < 41) : after.read (headerSize+(start+behind)+(left+d)*8) 8 = 0 := by
  refine Memory.read_zero ?_
  intro x below
  rw [← cut.cleared (d*8+x) (by omega)]
  congr 1
  omega

theorem cut_beyond (cut : Cut (shiftOffsets (headerSize+(start+(40+behind))) (objCount-1-i) i memory) after start (behind+left*8))
    (back : 41 ≤ d) (before : i ≤ left) (inside : left+d < objCount) : after.read (headerSize+(start+behind)+(left+d)*8) 8 =
      sub64 (memory.read (headerSize+(start+(40+behind))+(left+1+(d-5))*8) 8) binderBufferObjectSize := by
  have same : after.read (headerSize+(start+behind)+(left+d)*8) 8 =
      (shiftOffsets (headerSize+(start+(40+behind))) (objCount-1-i) i memory).read (headerSize+(start+(40+behind))+(left+d-5)*8) 8 := by
    refine Memory.read_moved ?_
    intro x below
    rw [cut.beyond _ (by omega)]
    congr 1
    omega
  have next : left+d-5+1 = left+1+(d-5) := by omega
  rw [same,read_shiftOffsets (by omega) (by omega),next]

end Shifted

section Removal
variable {memory : Memory} {done rest : List Piece} {piece : Piece} {objCount : Nat}

theorem read_front {address : Nat} {bytes : List UInt8} (there : memory.readBytes address bytes.length = bytes) (long : 4 ≤ bytes.length) :
    memory.read address 4 = header bytes := by
  have split : 4+(bytes.length-4) = bytes.length := by omega
  rw [← split,Memory.readBytes_add] at there
  rw [Memory.read,header,← there,List.take_left' (Memory.readBytes_length _ _ _)]

theorem Holds.bytes_parts (holds : Holds memory (done ++ rest)) : memory.readBytes headerSize (payload done).length = payload done ∧
    memory.readBytes (headerSize+(payload done).length) (payload rest).length = payload rest := by
  have there := holds.bytes
  rw [payload_append] at there
  exact Memory.readBytes_parts there

theorem Holds.header_at (holds : Holds memory (done ++ piece :: rest)) (long : 4 ≤ piece.content.length) :
    memory.read (headerSize+(payload done).length) 4 = header piece.content :=
  read_front (Memory.readBytes_parts holds.bytes_parts.2).1 long

theorem Holds.entry_at (holds : Holds memory (done ++ piece :: rest)) (object : piece.object = true) :
    memory.read (headerSize+(payload (done ++ piece :: rest)).length+objects done*8) 8 = (payload done).length := by
  apply holds.table
  rw [offsets_append,offsets_cons object,List.getElem?_append_right (Nat.le_of_eq (offsets_length _ _)),offsets_length,Nat.sub_self,
    Nat.zero_add]
  rfl

/-- The entry `d` behind the table, `d` less than the number of objects removed: a removal clears 41 of them, and shifts the others
as if they were offsets. -/
def stale (d : Nat) : Nat := sub64 0 (binderBufferObjectSize*((d-36)/5))

def Stale (memory : Memory) (pieces : List Piece) (objCount : Nat) : Prop :=
  ∀ d, objects pieces+d < objCount → memory.read (headerSize+(payload pieces).length+(objects pieces+d)*8) 8 = stale d

theorem stale_front {d : Nat} (front : d < 41) : stale d = 0 := by
  rw [stale,Nat.div_eq_of_lt (by omega)]
  rfl

theorem stale_shift {d : Nat} (behind : 41 ≤ d) : stale d = sub64 (stale (d-5)) binderBufferObjectSize := by
  simp only [stale,sub64,wrap64,binderBufferObjectSize]
  omega

/-- What no removal touches: the middle of the header, and what lies in front of the package. -/
def Outside (memory after : Memory) : Prop := ∀ x, 4 ≤ x ∧ x < 40 ∨ 2^63 ≤ x → after x = memory x

theorem Outside.trans {first second third : Memory} (left : Outside first second) (right : Outside second third) : Outside first third :=
  fun x far => (right x far).trans (left x far)

/-- A table of offsets from which one entry is taken, those behind it shifted. -/
theorem offsets_removed {t offset : Nat} (kind : piece.ptr = true) (size : piece.content.length = binderBufferObjectSize)
    (at_ : (offsets 0 (done ++ rest))[t]? = some offset) :
    (t < objects done ∧ (offsets 0 (done ++ piece :: rest))[t]? = some offset) ∨
      (objects done ≤ t ∧ (offsets 0 (done ++ piece :: rest))[t+1]? = some (offset+binderBufferObjectSize)) := by
  have object := object_of_ptr kind
  rw [offsets_append,Nat.zero_add,List.getElem?_append,offsets_length] at at_
  rw [offsets_append,Nat.zero_add,offsets_cons object,size,offsets_shift,List.getElem?_append,List.getElem?_append,offsets_length]
  split at at_
  · rename_i low
    rw [if_pos low]
    exact .inl ⟨low,at_⟩
  · refine .inr ⟨by omega,?_⟩
    rw [if_neg (by omega),Nat.sub_add_comm (by omega),List.getElem?_cons_succ,List.getElem?_map,at_]
    rfl

theorem removePtr_holds (holds : Holds memory (done ++ piece :: rest)) (kind : piece.ptr = true)
    (size : piece.content.length = binderBufferObjectSize) (behind : 4 ≤ (payload rest).length) (fits : Fits (done ++ piece :: rest))
    (old : Stale memory (done ++ piece :: rest) objCount) (counted : objects (done ++ piece :: rest) ≤ objCount) (few : objCount < 2^32) :
    ∃ after, removePtr objCount (objects done) memory = some after ∧ Holds after (done ++ rest) ∧ Stale after (done ++ rest) objCount ∧
      Outside memory after := by
  have object := object_of_ptr kind
  have lengthBefore : (payload (done ++ piece :: rest)).length = (payload done).length+(40+(payload rest).length) := by
    rw [payload_append,payload_cons,List.length_append,List.length_append,size,binderBufferObjectSize]
  have lengthAfter : (payload (done ++ rest)).length = (payload done).length+(payload rest).length := by
    rw [payload_append,List.length_append]
  have countBefore : objects (done ++ piece :: rest) = objects done+(objects rest+1) := by rw [objects_append,objects_cons object]
  have countAfter : objects (done ++ rest) = objects done+objects rest := objects_append _ _
  have sizes := fits
  simp only [Fits,sizeOf,lengthBefore,countBefore,binderSize,flatSessionLen,headerSize,secureMemMaxLen] at sizes
  have header : memory.read (headerSize+(payload done).length) 4 = binderTypePtr :=
    (holds.header_at (by rw [size]; decide)).trans (header_of_ptr kind)
  obtain ⟨after,removed,cut,sizeOfSelf,bufferSize,offsetsSize,offsets_⟩ := removePtr_cut holds.bufferSize holds.offsetsSize
    (holds.entry_at object) header (by rw [lengthBefore,binderBufferObjectSize]; omega) (by omega)
    (by rw [lengthBefore,countBefore,secureMemMaxLen]; omega)
  have moved : (payload (done ++ piece :: rest)).length+(objects (done ++ piece :: rest)-1)*8-(payload done).length-binderBufferObjectSize =
      (payload rest).length+(objects done+objects rest)*8 := by
    rw [lengthBefore,countBefore,binderBufferObjectSize]
    omega
  rw [moved,lengthBefore] at cut
  refine ⟨after,removed,⟨?_,?_,?_,?_,?_,?_⟩,?_,?_⟩
  · rw [sizeOfSelf,holds.sizeOfSelf]
    simp only [sizeOf,lengthBefore,lengthAfter,countBefore,countAfter,binderSize,flatSessionLen,headerSize]
    omega
  · rw [bufferSize,lengthBefore,lengthAfter,binderBufferObjectSize]
    omega
  · rw [offsetsSize,countBefore,countAfter,binderSize]
    rfl
  · rw [offsets_,lengthBefore,lengthAfter,binderBufferObjectSize]
    omega
  · rw [lengthAfter,Memory.readBytes_add,payload_append]
    have front : after.readBytes headerSize (payload done).length = memory.readBytes headerSize (payload done).length :=
      Memory.readBytes_congr fun x low high => (cut.before x low high).trans (shiftOffsets_outside (.inl (by omega)))
    have back : after.readBytes (headerSize+(payload done).length) (payload rest).length =
        memory.readBytes (headerSize+(payload done).length+binderBufferObjectSize) (payload rest).length :=
      Memory.readBytes_moved fun x below => (cut.behind x (by omega)).trans
        (shiftOffsets_outside (.inl (by simp only [binderBufferObjectSize]; omega)))
    have followed := (Memory.readBytes_parts holds.bytes_parts.2).2
    rw [size] at followed
    rw [front,back,holds.bytes_parts.1]
    exact congrArg _ followed
  · intro t offset at_
    have inside : t < objects done+objects rest := by
      rw [← countAfter,← offsets_length 0]
      exact (List.getElem?_eq_some_iff.mp at_).1
    simp only [binderSize]
    rw [lengthAfter,cut_table cut inside]
    rcases offsets_removed kind size at_ with ⟨low,same⟩ | ⟨high,next⟩
    · have entry := holds.table _ _ same
      rw [lengthBefore] at entry
      rw [read_shiftOffsets_outside (.inl low)]
      exact entry
    · have entry := holds.table _ _ next
      rw [lengthBefore] at entry
      simp only [binderSize] at entry
      have bound := Memory.read_lt memory (headerSize+((payload done).length+(40+(payload rest).length))+(t+1)*8) 8
      rw [read_shiftOffsets high (by omega),entry]
      rw [entry] at bound
      rw [sub64_of_le (Nat.le_add_left _ _) bound,Nat.add_sub_cancel]
  · intro d inside
    rw [countAfter] at inside ⊢
    rw [lengthAfter]
    rcases Nat.lt_or_ge d 41 with front | back
    · rw [stale_front front]
      exact cut_cleared cut front
    · have entry := old (d-5) (by omega)
      rw [lengthBefore,countBefore] at entry
      rw [stale_shift back,← entry]
      exact cut_beyond cut back (by omega) inside
  · intro x far
    have kept : after x = shiftOffsets (headerSize+((payload done).length+(40+(payload rest).length))) (objCount-1-objects done)
        (objects done) memory x := by
      rcases far with ⟨low,high⟩ | far
      · exact cut.kind x low high
      · exact cut.beyond x (by simp only [headerSize]; omega)
    rw [kept]
    exact shiftOffsets_outside (by simp only [headerSize]; omega)

end Removal

section Loop
variable {memory : Memory} {done rest : List Piece} {piece : Piece} {objCount i cutCount : Nat}

theorem cutPtr_other {bufferSize delOffset : Nat} (bufferSize_ : memory.read 40 8 = bufferSize)
    (entry : memory.read (headerSize+bufferSize+i*8) 8 = delOffset)
    (other : memory.read (wrap64 (headerSize+delOffset)) 4 ≠ binderTypePtr) :
    cutPtr objCount i (memory,cutCount) = some (memory,cutCount) := by
  have stays : removePtr objCount i memory = some memory := removePtr_other bufferSize_ entry other
  simp only [cutPtr,TransactionData.decode,binderSize,bufferSize_,entry,if_neg other,stays,Option.map_some]

theorem cutPtr_ptr {bufferSize delOffset : Nat} {after : Memory} (bufferSize_ : memory.read 40 8 = bufferSize)
    (entry : memory.read (headerSize+bufferSize+i*8) 8 = delOffset)
    (ptr : memory.read (wrap64 (headerSize+delOffset)) 4 = binderTypePtr) (removed : removePtr objCount i memory = some after) :
    cutPtr objCount i (memory,cutCount) = some (after,wrap32 (cutCount+1)) := by
  simp only [cutPtr,TransactionData.decode,binderSize,bufferSize_,entry,if_pos ptr,removed,Option.map_some]

theorem cutPtr_counted {bufferSize delOffset counted : Nat} {after : Memory} (bufferSize_ : memory.read 40 8 = bufferSize)
    (entry : memory.read (headerSize+bufferSize+i*8) 8 = delOffset)
    (ptr : memory.read (wrap64 (headerSize+delOffset)) 4 = binderTypePtr)
    (turned : cutPtr objCount i (memory,cutCount) = some (after,counted)) : counted = wrap32 (cutCount+1) := by
  simp only [cutPtr,TransactionData.decode,binderSize,bufferSize_,entry,if_pos ptr] at turned
  obtain ⟨other,-,same⟩ := Option.map_eq_some_iff.mp turned
  exact (Prod.mk.inj same).2.symm

/-- A turn counts at most one removal, and none where the type is another. -/
theorem cutPtr_count {after : Memory} {counted : Nat} (turned : cutPtr objCount i (memory,cutCount) = some (after,counted))
    (few : cutCount+1 < 2^32) : cutCount ≤ counted ∧ counted ≤ cutCount+1 := by
  simp only [cutPtr] at turned
  obtain ⟨other,-,same⟩ := Option.map_eq_some_iff.mp turned
  rw [← (Prod.mk.inj same).2]
  split
  · simp only [wrap32]
    omega
  · omega

theorem turns_count {turns : List Nat} {after : Memory} {counted : Nat}
    (turned : turns.foldlM (fun state i => cutPtr objCount i state) (memory,cutCount) = some (after,counted))
    (few : cutCount+turns.length < 2^32) : cutCount ≤ counted := by
  induction turns generalizing memory cutCount with
  | nil => exact Nat.le_of_eq (Prod.mk.inj (Option.some.inj turned)).2
  | cons turn turns ih =>
    rw [List.length_cons] at few
    rw [List.foldlM_cons] at turned
    obtain ⟨⟨middle,count⟩,first,more⟩ := Option.bind_eq_some_iff.mp turned
    have step := cutPtr_count first (by omega)
    exact step.1.trans (ih more (by omega))

theorem survivors_kept (kept : piece.ptr = false) (pieces : List Piece) : survivors (piece :: pieces) = piece :: survivors pieces := by
  rw [survivors,List.filter_cons_of_pos (by rw [kept]; rfl)]
  rfl

theorem survivors_ptr (kind : piece.ptr = true) (pieces : List Piece) : survivors (piece :: pieces) = survivors pieces := by
  rw [survivors,List.filter_cons_of_neg (by rw [kind]; decide)]
  rfl

theorem ptrs_kept (kept : piece.ptr = false) (pieces : List Piece) : ptrs (piece :: pieces) = ptrs pieces := by
  rw [ptrs,List.countP_cons_of_neg (by rw [kept]; decide)]
  rfl

theorem ptrs_ptr (kind : piece.ptr = true) (pieces : List Piece) : ptrs (piece :: pieces) = ptrs pieces+1 := by
  rw [ptrs,List.countP_cons_of_pos kind]
  rfl

theorem objects_plain (plain : piece.object = false) (pieces : List Piece) : objects (piece :: pieces) = objects pieces := by
  rw [objects,List.countP_cons_of_neg (by rw [plain]; decide)]
  rfl

theorem Fits.removed (fits : Fits (done ++ piece :: rest)) (object : piece.object = true) : Fits (done ++ rest) := by
  simp only [Fits,sizeOf,payload_append,payload_cons,objects_append,objects_cons object,List.length_append,binderSize,flatSessionLen] at fits ⊢
  omega

theorem Fits.few {pieces : List Piece} (fits : Fits pieces) : objects pieces < 2^31 := by
  simp only [Fits,sizeOf,binderSize,flatSessionLen,headerSize,secureMemMaxLen] at fits
  omega

theorem Fits.inFront (fits : Fits (done ++ rest)) : wrap64 (headerSize+(payload done).length) = headerSize+(payload done).length := by
  apply Nat.mod_eq_of_lt
  simp only [Fits,sizeOf,payload_append,List.length_append,headerSize,secureMemMaxLen] at fits ⊢
  omega

theorem Followed.survivors {pieces : List Piece} (followed : Followed pieces) : Followed (survivors pieces) := by
  induction pieces with
  | nil => exact followed
  | cons piece pieces ih =>
    rw [Followed] at followed
    split at followed
    · rename_i object
      rw [survivors_kept followed,Followed,if_pos object]
      exact followed
    · rename_i plain
      have kept : piece.ptr = false := by rw [Piece.ptr,Bool.eq_false_iff.mpr plain]; rfl
      rw [survivors_kept kept,Followed,if_neg plain]
      exact ih followed

theorem Followed.counted {pieces : List Piece} (followed : Followed pieces) : 0 < objects pieces := by
  induction pieces with
  | nil => exact followed.elim
  | cons piece pieces ih =>
    rw [Followed] at followed
    split at followed
    · rename_i object
      rw [objects_cons object]
      exact Nat.succ_pos _
    · rename_i plain
      rw [objects_plain (Bool.eq_false_iff.mpr plain)]
      exact ih followed

/-- The turns that pass the entries of the table: a removal puts the next object, no pointer object, under an index that is already passed. -/
theorem turns_holds (skip : Bool) {turns : Nat} (formed : WellFormed rest) (followed : skip = true → Followed rest)
    (enough : turns+skip.toNat = objects (survivors rest)) (holds : Holds memory (done ++ rest)) (old : Stale memory (done ++ rest) objCount)
    (fits : Fits (done ++ rest)) (counted : objects (done ++ rest) ≤ objCount) (few : objCount < 2^32) (more : cutCount+ptrs rest < 2^32) :
    ∃ after, (List.range' (objects done+skip.toNat) turns).foldlM (fun state i => cutPtr objCount i state) (memory,cutCount) =
        some (after,cutCount+ptrs rest) ∧
      Holds after (done ++ survivors rest) ∧ Stale after (done ++ survivors rest) objCount ∧ Outside memory after := by
  induction rest generalizing memory done skip turns cutCount with
  | nil =>
    have first : skip = false := by
      cases skip with
      | false => rfl
      | true => exact (followed rfl).elim
    rw [first] at enough
    have none_ : turns = 0 := enough
    rw [none_]
    exact ⟨memory,rfl,holds,old,fun _ _ => rfl⟩
  | cons piece rest ih =>
    obtain ⟨large,pointer,formed⟩ := formed
    have shift : ∀ more : List Piece, done ++ piece :: more = (done ++ [piece]) ++ more := fun more => (List.append_assoc done [piece] more).symm
    cases plain : piece.object with
    | false =>
      have kept : piece.ptr = false := by rw [Piece.ptr,plain]; rfl
      have same : objects (done ++ [piece]) = objects done := by rw [objects_append,objects_plain plain]; rfl
      have next : skip = true → Followed rest := by
        intro skipped
        have passed := followed skipped
        rwa [Followed,plain] at passed
      rw [survivors_kept kept,objects_plain plain] at enough
      rw [ptrs_kept kept] at more ⊢
      rw [survivors_kept kept,shift,← same]
      rw [shift] at holds old fits counted
      exact ih skip formed next enough holds old fits counted more
    | true =>
      have index : objects (done ++ [piece]) = objects done+1 := by rw [objects_append,objects_cons plain]; rfl
      cases kind : piece.ptr with
      | false =>
        rw [survivors_kept kind,objects_cons plain] at enough
        rw [ptrs_kept kind] at more ⊢
        have header : memory.read (headerSize+(payload done).length) 4 ≠ binderTypePtr := by
          rw [holds.header_at (large plain)]
          intro same
          rw [Piece.ptr,plain,decide_eq_true same] at kind
          cases kind
        have stays : ∀ turns, (List.range' (objects done) (turns+1)).foldlM (fun state i => cutPtr objCount i state) (memory,cutCount) =
            (List.range' (objects (done ++ [piece])) turns).foldlM (fun state i => cutPtr objCount i state) (memory,cutCount) := by
          intro turns
          rw [List.range'_succ,List.foldlM_cons,index,
            cutPtr_other holds.bufferSize (holds.entry_at plain) (by rw [fits.inFront]; exact header)]
          rfl
        rw [survivors_kept kind,shift]
        rw [shift] at holds old fits counted
        cases skip with
        | true =>
          have rest_ := ih false formed (fun never => by cases never) (Nat.succ.inj enough) holds old fits counted more
          rwa [index] at rest_
        | false =>
          have exact_ : turns = objects (survivors rest)+1 := enough
          have rest_ := ih false formed (fun never => by cases never) (Nat.add_zero _) holds old fits counted more
          rw [exact_,Bool.toNat_false,Nat.add_zero,stays]
          exact rest_
      | true =>
        obtain ⟨size,behind⟩ := pointer kind
        have first : skip = false := by
          cases skip with
          | false => rfl
          | true =>
            have passed := followed rfl
            rw [Followed,plain,if_pos rfl,kind] at passed
            cases passed
        have next := behind.survivors.counted
        rw [survivors_ptr kind] at enough ⊢
        rw [ptrs_ptr kind] at more ⊢
        have header : memory.read (headerSize+(payload done).length) 4 = binderTypePtr :=
          (holds.header_at (large plain)).trans (header_of_ptr kind)
        obtain ⟨middle,removed,holds_,old_,outside⟩ := removePtr_holds holds kind size (behind.long formed.large) fits old counted few
        have turn : cutPtr objCount (objects done) (memory,cutCount) = some (middle,wrap32 (cutCount+1)) :=
          cutPtr_ptr holds.bufferSize (holds.entry_at plain) (by rw [fits.inFront]; exact header) removed
        have count : wrap32 (cutCount+1) = cutCount+1 := Nat.mod_eq_of_lt (by omega)
        have fewer : objects (done ++ rest) ≤ objCount := by
          rw [objects_append,objects_cons plain] at counted
          rw [objects_append]
          omega
        rw [first] at enough
        obtain ⟨before,succ⟩ : ∃ before, turns = before+1 := ⟨turns-1,by simp only [Bool.toNat_false] at enough; omega⟩
        rw [succ,Bool.toNat_false,Nat.add_zero] at enough
        obtain ⟨after,rest_,kept,cleared,further⟩ := ih true formed (fun _ => behind) enough holds_ old_ (fits.removed plain) fewer
          (show cutCount+1+ptrs rest < 2^32 by omega)
        refine ⟨after,?_,kept,cleared,outside.trans further⟩
        rw [first,Bool.toNat_false,Nat.add_zero,succ,List.range'_succ,List.foldlM_cons,turn,count]
        rw [Nat.add_right_comm] at rest_
        exact rest_

end Loop

section Stale
variable {memory : Memory} {pieces : List Piece} {objCount : Nat}

/-- The type that the turn over the stale entry `d` reads: at the front of the payload, or in front of it. -/
def staleHeader (memory : Memory) (pieces : List Piece) (d : Nat) : Nat :=
  if d < 41 then header (payload (survivors pieces)) else memory.read (wrap64 (headerSize+stale d)) 4

/-- In front of the payload lies the header's `cookie`, and everything else there is not the package's. -/
theorem stale_inFront {d : Nat} (back : 41 ≤ d) (few : d < 2^32) :
    wrap64 (headerSize+stale d) = 24 ∨ 2^63 ≤ wrap64 (headerSize+stale d) := by
  have one : 1 ≤ (d-36)/5 := (Nat.one_le_div_iff (by decide)).mpr (by omega)
  have bound : (d-36)/5 < 2^32 := Nat.lt_of_le_of_lt (Nat.div_le_self _ _) (by omega)
  rw [stale]
  generalize (d-36)/5 = blocks at one bound
  have far : sub64 0 (binderBufferObjectSize*blocks) = 2^64-40*blocks := by
    rw [sub64,Nat.mod_eq_of_lt (by simp only [binderBufferObjectSize]; omega),Nat.zero_add,binderBufferObjectSize]
    exact Nat.mod_eq_of_lt (by omega)
  rw [far]
  rcases Nat.eq_or_lt_of_le one with same | more
  · left
    rw [← same]
    decide
  · right
    rw [wrap64,headerSize,Nat.mod_eq_of_lt (by omega)]
    omega

theorem staleHeader_eq {after : Memory} {d : Nat} (holds : Holds after (survivors pieces)) (outside : Outside memory after)
    (long : 4 ≤ (payload (survivors pieces)).length) (few : d < 2^32) :
    after.read (wrap64 (headerSize+stale d)) 4 = staleHeader memory pieces d := by
  rw [staleHeader]
  split
  · rw [stale_front ‹_›]
    exact read_front holds.bytes long
  · refine Memory.read_congr fun x low high => outside x ?_
    have place := stale_inFront (Nat.le_of_not_lt ‹_›) few
    omega

/-- The turns over the stale entries: nothing happens, or one more object is counted. -/
theorem turns_stale {turns d cutCount counted : Nat} {final : Memory} (holds : Holds memory pieces) (old : Stale memory pieces objCount)
    (inside : objects pieces+d+turns = objCount) (few : cutCount+turns < 2^32)
    (turned : (List.range' (objects pieces+d) turns).foldlM (fun state i => cutPtr objCount i state) (memory,cutCount) = some (final,counted)) :
    (∀ e < turns, memory.read (wrap64 (headerSize+stale (d+e))) 4 ≠ binderTypePtr) ∨ cutCount < counted := by
  induction turns generalizing d with
  | zero => exact .inl fun e below => absurd below (Nat.not_lt_zero e)
  | succ turns ih =>
    rw [List.range'_succ,List.foldlM_cons] at turned
    obtain ⟨⟨middle,count⟩,first,more⟩ := Option.bind_eq_some_iff.mp turned
    by_cases ptr : memory.read (wrap64 (headerSize+stale d)) 4 = binderTypePtr
    · right
      have one : count = cutCount+1 :=
        (cutPtr_counted holds.bufferSize (old d (by omega)) ptr first).trans (Nat.mod_eq_of_lt (by omega))
      have rest := turns_count more (by rw [List.length_range']; omega)
      omega
    · have stays : cutPtr objCount (objects pieces+d) (memory,cutCount) = some (memory,cutCount) :=
        cutPtr_other holds.bufferSize (old d (by omega)) ptr
      rw [stays] at first
      obtain ⟨rfl,rfl⟩ := Prod.mk.inj (Option.some.inj first)
      rcases @ih (d+1) (by omega) (by omega) more with all | further
      · left
        intro e below
        cases e with
        | zero => exact ptr
        | succ e =>
          rw [Nat.add_comm e 1,← Nat.add_assoc]
          exact all e (Nat.lt_of_succ_lt_succ below)
      · exact .inr further

theorem turns_still {turns d cutCount : Nat} (holds : Holds memory pieces) (old : Stale memory pieces objCount)
    (inside : objects pieces+d+turns = objCount) (others : ∀ e < turns, memory.read (wrap64 (headerSize+stale (d+e))) 4 ≠ binderTypePtr) :
    (List.range' (objects pieces+d) turns).foldlM (fun state i => cutPtr objCount i state) (memory,cutCount) = some (memory,cutCount) := by
  induction turns generalizing d with
  | zero => rfl
  | succ turns ih =>
    have stays : cutPtr objCount (objects pieces+d) (memory,cutCount) = some (memory,cutCount) :=
      cutPtr_other holds.bufferSize (old d (by omega)) (others 0 (Nat.succ_pos _))
    rw [List.range'_succ,List.foldlM_cons,stays]
    refine @ih (d+1) (by omega) fun e below => ?_
    rw [Nat.add_assoc,Nat.add_comm 1 e]
    exact others (e+1) (Nat.succ_lt_succ below)

end Stale

section Packages
variable {memory : Memory} {pieces : List Piece}

/-- A package that holds the pieces and is zero elsewhere. -/
def packageOf (pieces : List Piece) : Memory :=
  let memory : Memory := fun _ => 0
  let memory := memory.write 0 4 (sizeOf pieces)
  let memory := memory.write 40 8 (payload pieces).length
  let memory := memory.write 48 8 (objects pieces*binderSize)
  let memory := memory.write 56 8 (payload pieces).length
  let memory := memory.writeBytes headerSize (payload pieces)
  memory.writeBytes (headerSize+(payload pieces).length) ((offsets 0 pieces).flatMap (toLE binderSize))

theorem offsets_le {start offset : Nat} (member : offset ∈ offsets start pieces) : offset ≤ start+(payload pieces).length := by
  induction pieces generalizing start with
  | nil => cases member
  | cons piece pieces ih =>
    have length : (payload (piece :: pieces)).length = piece.content.length+(payload pieces).length := List.length_append
    have later (member : offset ∈ offsets (start+piece.content.length) pieces) : offset ≤ start+(payload (piece :: pieces)).length := by
      rw [length,← Nat.add_assoc]
      exact ih member
    simp only [offsets] at member
    split at member
    · rcases List.mem_cons.mp member with rfl | further
      · exact Nat.le_add_right _ _
      · exact later further
    · exact later member

theorem holds_packageOf (fits : Fits pieces) : Holds (packageOf pieces) pieces := by
  have sizes := fits
  simp only [Fits,sizeOf,binderSize,flatSessionLen,headerSize,secureMemMaxLen] at sizes
  have length : headerSize = 64 := rfl
  refine ⟨?_,?_,?_,?_,?_,?_⟩
  · rw [packageOf,Memory.read_writeBytes_apart (by omega),Memory.read_writeBytes_apart (by omega),Memory.read_write_apart (by omega),
      Memory.read_write_apart (by omega),Memory.read_write_apart (by omega),Memory.read_write]
    simp only [Fits,secureMemMaxLen,headerSize] at fits
    exact Nat.mod_eq_of_lt (by omega)
  · rw [packageOf,Memory.read_writeBytes_apart (by omega),Memory.read_writeBytes_apart (by omega),Memory.read_write_apart (by omega),
      Memory.read_write_apart (by omega),Memory.read_write]
    exact Nat.mod_eq_of_lt (by omega)
  · rw [packageOf,Memory.read_writeBytes_apart (by omega),Memory.read_writeBytes_apart (by omega),Memory.read_write_apart (by omega),
      Memory.read_write]
    exact Nat.mod_eq_of_lt (by simp only [binderSize]; omega)
  · rw [packageOf,Memory.read_writeBytes_apart (by omega),Memory.read_writeBytes_apart (by omega),Memory.read_write]
    exact Nat.mod_eq_of_lt (by omega)
  · rw [packageOf,Memory.readBytes_writeBytes_apart (by omega)]
    exact Memory.readBytes_writeBytes _ _ _
  · intro i offset at_
    have bound := offsets_le (List.mem_of_getElem? at_)
    rw [packageOf,Memory.read_writeBytes_table _ _ _ at_]
    exact Nat.mod_eq_of_lt (by simp only [binderSize]; omega)

/-- A payload that starts with the bytes of a pointer object's type, a pointer object and its object. -/
def lookalike : List Piece :=
  [⟨false,toLE 4 binderTypePtr⟩,⟨true,toLE binderBufferObjectSize binderTypePtr⟩,⟨true,toLE 24 binderTypeBinder⟩]

/-- The bytes of an object that are looked at: a pointer object's, or a header. -/
def objectSize (bytes : List UInt8) (offset : Nat) : Nat :=
  if header (bytes.drop offset) = binderTypePtr then binderBufferObjectSize else 4

/-- A table of increasing offsets without overlaps, in which no pointer object comes last or before another. -/
def Listed (bytes : List UInt8) : Nat → List Nat → Prop
  | start,[] => start ≤ bytes.length
  | start,offset :: table => start ≤ offset ∧
    (header (bytes.drop offset) = binderTypePtr → ∃ next ∈ table.head?, header (bytes.drop next) ≠ binderTypePtr) ∧
    Listed bytes (offset+objectSize bytes offset) table

theorem Listed.inside {bytes : List UInt8} {start : Nat} {table : List Nat} (listed : Listed bytes start table) : start ≤ bytes.length := by
  induction table generalizing start with
  | nil => exact listed
  | cons offset table ih =>
    obtain ⟨low,-,rest⟩ := listed
    exact low.trans ((Nat.le_add_right _ _).trans (ih rest))

theorem header_take {bytes : List UInt8} {size : Nat} (long : 4 ≤ size) : header (bytes.take size) = header bytes := by
  rw [header,List.take_take,Nat.min_eq_left long,header]

/-- Every such table is that of some pieces. -/
theorem pieces_of_listed {bytes : List UInt8} {start : Nat} {table : List Nat} (listed : Listed bytes start table) :
    ∃ pieces, payload pieces = bytes.drop start ∧ offsets start pieces = table ∧ WellFormed pieces ∧
      (∀ next ∈ table.head?, header (bytes.drop next) ≠ binderTypePtr → Followed pieces) := by
  induction table generalizing start with
  | nil =>
    refine ⟨[⟨false,bytes.drop start⟩],?_,rfl,?_,?_⟩
    · exact List.append_nil _
    · exact ⟨Bool.noConfusion,Bool.noConfusion,trivial⟩
    · intro next member
      cases member
  | cons offset table ih =>
    obtain ⟨low,behind,rest⟩ := listed
    obtain ⟨pieces,bytes_,table_,formed,followed⟩ := ih rest
    have long : 4 ≤ objectSize bytes offset := by
      rw [objectSize]
      split <;> decide
    have inside := rest.inside
    have plain : ((bytes.drop start).take (offset-start)).length = offset-start := by
      rw [List.length_take,List.length_drop]
      omega
    have size : ((bytes.drop offset).take (objectSize bytes offset)).length = objectSize bytes offset := by
      rw [List.length_take,List.length_drop]
      omega
    have type : header ((bytes.drop offset).take (objectSize bytes offset)) = header (bytes.drop offset) := header_take long
    refine ⟨⟨false,(bytes.drop start).take (offset-start)⟩ :: ⟨true,(bytes.drop offset).take (objectSize bytes offset)⟩ :: pieces,?_,?_,?_,?_⟩
    · have back : bytes.drop offset = (bytes.drop start).drop (offset-start) := by rw [List.drop_drop]; congr 1; omega
      rw [payload_cons,payload_cons,bytes_,← List.drop_drop,List.take_append_drop,back,List.take_append_drop]
    · have place : start+(offset-start) = offset := by omega
      rw [offsets,plain,place]
      simp only [Bool.false_eq_true,if_false]
      rw [offsets_cons rfl,size,table_]
    · refine ⟨Bool.noConfusion,Bool.noConfusion,?_,?_,formed⟩
      · intro _
        rw [size]
        exact long
      · intro kind
        have ptr := (header_of_ptr kind).symm.trans type
        obtain ⟨next,member,other⟩ := behind ptr.symm
        refine ⟨?_,followed next member other⟩
        rw [size,objectSize,if_pos ptr.symm]
    · intro next member other
      cases member
      rw [Followed,if_neg Bool.false_ne_true,Followed,if_pos rfl,Piece.ptr,type,decide_eq_false other]
      rfl

end Packages

section Removal
variable {memory : Memory} {pieces : List Piece}

theorem objects_survivors (pieces : List Piece) : objects pieces = objects (survivors pieces)+ptrs pieces := by
  induction pieces with
  | nil => rfl
  | cons piece pieces ih =>
    cases plain : piece.object with
    | false =>
      have kept : piece.ptr = false := by rw [Piece.ptr,plain]; rfl
      rw [survivors_kept kept,ptrs_kept kept,objects_plain plain,objects_plain plain,ih]
    | true =>
      cases kind : piece.ptr with
      | false => rw [survivors_kept kind,ptrs_kept kind,objects_cons plain,objects_cons plain,ih,Nat.add_right_comm]
      | true => rw [survivors_ptr kind,ptrs_ptr kind,objects_cons plain,ih,Nat.add_assoc]

theorem survivors_long (formed : WellFormed pieces) (some_ : 0 < ptrs pieces) : 4 ≤ (payload (survivors pieces)).length := by
  induction pieces with
  | nil => cases some_
  | cons piece pieces ih =>
    obtain ⟨-,pointer,formed⟩ := formed
    cases kind : piece.ptr with
    | false =>
      rw [ptrs_kept kind] at some_
      rw [survivors_kept kind,payload_cons,List.length_append]
      exact Nat.le_add_left_of_le (ih formed some_)
    | true =>
      have followed := (pointer kind).2
      rw [survivors_ptr kind]
      exact followed.survivors.long fun piece member => formed.large piece (List.mem_filter.mp member).1

theorem passed_table (formed : WellFormed pieces) (holds : Holds memory pieces) (fits : Fits pieces) :
    ∃ middle, Holds middle (survivors pieces) ∧ Stale middle (survivors pieces) (objects pieces) ∧
      (∀ d < ptrs pieces, middle.read (wrap64 (headerSize+stale d)) 4 = staleHeader memory pieces d) ∧
      removeDBinderPtrDataCount memory =
        (List.range' (objects (survivors pieces)+0) (ptrs pieces)).foldlM (fun state i => cutPtr (objects pieces) i state)
          (middle,ptrs pieces) := by
  have total := objects_survivors pieces
  have few := fits.few
  have objCount : (TransactionData.decode memory).offsetsSize/binderSize = objects pieces := by
    simp only [TransactionData.decode]
    rw [holds.offsetsSize]
    exact Nat.mul_div_cancel _ (by decide)
  obtain ⟨middle,passed,kept,old,outside⟩ := @turns_holds memory [] pieces (objects pieces) 0 false
    (objects (survivors pieces)) formed (fun never => by cases never) (Nat.add_zero _) holds (fun d inside => absurd inside (by simp))
    fits (Nat.le_refl _) (by omega) (by omega)
  rw [List.nil_append] at kept old
  refine ⟨middle,kept,old,?_,?_⟩
  · intro d below
    exact staleHeader_eq kept outside (survivors_long formed (by omega)) (by omega)
  · have turns : List.range (objects pieces) = List.range' 0 (objects (survivors pieces)) ++
        List.range' (objects (survivors pieces)+0) (ptrs pieces) := by
      rw [List.range_eq_range',total,← List.range'_append_1,Nat.zero_add,Nat.add_zero]
    rw [removeDBinderPtrDataCount,objCount,turns,List.foldlM_append]
    simp only [objects,List.countP_nil,Bool.toNat_false,Nat.add_zero,Nat.zero_add] at passed ⊢
    rw [passed]
    rfl

/-- The call removes the pointer objects and nothing else, and counts them. -/
def Removed (memory : Memory) (pieces : List Piece) : Prop :=
  ∃ after, removeDBinderPtrDataCount memory = some (after,ptrs pieces) ∧ Holds after (survivors pieces)

/-- No type that the turns over the stale entries read for one of an object is that of a pointer object. -/
def Unseen (memory : Memory) (pieces : List Piece) : Prop := ∀ d < ptrs pieces, staleHeader memory pieces d ≠ binderTypePtr

theorem Removed.unseen (formed : WellFormed pieces) (holds : Holds memory pieces) (fits : Fits pieces) (done : Removed memory pieces) :
    Unseen memory pieces := by
  obtain ⟨middle,kept,old,headers,run⟩ := passed_table formed holds fits
  obtain ⟨after,removed,-⟩ := done
  have few := fits.few
  have total := objects_survivors pieces
  rw [run] at removed
  rcases turns_stale kept old (by omega) (by omega) removed with others | more
  · intro d below
    have other := others d below
    rwa [Nat.zero_add,headers d below] at other
  · exact absurd more (Nat.lt_irrefl _)

theorem unseen_of_front (few : ptrs pieces ≤ 41) (front : header (payload (survivors pieces)) ≠ binderTypePtr) : Unseen memory pieces := by
  intro d below
  rw [staleHeader,if_pos (by omega)]
  exact front

/-- The turns over the stale entries decide. -/
theorem removed_iff_unseen (formed : WellFormed pieces) (holds : Holds memory pieces) (fits : Fits pieces) :
    Removed memory pieces ↔ Unseen memory pieces := by
  constructor
  · exact Removed.unseen formed holds fits
  · intro others
    obtain ⟨middle,kept,old,headers,run⟩ := passed_table formed holds fits
    have total := objects_survivors pieces
    refine ⟨middle,?_,kept⟩
    rw [run]
    refine turns_still kept old (by omega) fun d below => ?_
    rw [Nat.zero_add,headers d below]
    exact others d below

theorem removed_iff_unseen_plain : Removed (packageOf [⟨false,[1,2,3,4]⟩,⟨true,toLE binderBufferObjectSize binderTypePtr⟩,⟨true,toLE 24 binderTypeBinder⟩])
    [⟨false,[1,2,3,4]⟩,⟨true,toLE binderBufferObjectSize binderTypePtr⟩,⟨true,toLE 24 binderTypeBinder⟩] :=
  (removed_iff_unseen (by decide) (holds_packageOf (by decide)) (by decide)).mpr (unseen_of_front (by decide) (by decide))

/-- The type at the front of the payload is taken for an object's: the call removes the object that it should keep, or fails. -/
theorem lookalike_removed : ¬ ∀ (memory : Memory) (pieces : List Piece), WellFormed pieces → Holds memory pieces → Fits pieces →
    Removed memory pieces := by
  intro claim
  have formed : WellFormed lookalike := by decide
  have fits : Fits lookalike := by decide
  have holds := holds_packageOf fits
  have unseen := (claim _ _ formed holds fits).unseen formed holds fits
  exact unseen 0 (by decide) (by decide)

theorem removeDBinderPtrData_eq (memory : Memory) : removeDBinderPtrData memory = (removeDBinderPtrDataCount memory).map Prod.fst := by
  rw [removeDBinderPtrData,removeDBinderPtrDataCount]
  generalize (TransactionData.decode memory).offsetsSize/binderSize = objCount
  generalize List.range objCount = turns
  generalize (0 : Nat) = cutCount
  induction turns generalizing memory cutCount with
  | nil => rfl
  | cons turn turns ih =>
    rw [List.foldlM_cons,List.foldlM_cons,cutPtr]
    cases removePtr objCount turn memory with
    | none => rfl
    | some middle => exact ih middle _

end Removal

end CommunicationIpc.PtrObjects
