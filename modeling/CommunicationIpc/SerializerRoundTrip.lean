import CommunicationIpc.Semantics.Wire
import CommunicationIpc.SerializerCursor

/-! Reading back what was written: each write call that succeeds appends the wire form of its value,
and the matching read call on that wire form yields the value and takes exactly these bytes. -/
namespace CommunicationIpc.SerializerRoundTrip
open CommunicationIpc.Library CommunicationIpc.Library.Program CommunicationIpc.Kernel.Serializer
open CommunicationIpc.Kernel.Package (wrap64)
open CommunicationIpc.Package (wrap64_of_lt)
open CommunicationIpc.SerializerCursor (ValidInit ipcIoInit_valid ioAlign_of_small take_some_iff)
open CommunicationIpc.Semantics

/-- An `IpcIo` whose next `count` bytes are taken. -/
def moved (io : IpcIo) (count : Nat) : IpcIo :=
  { io with bufferCur := io.bufferCur+count, bufferLeft := io.bufferLeft-count }

theorem moved_moved (io : IpcIo) (first second : Nat) : moved (moved io first) second = moved io (first+second) := by
  simp only [moved,Nat.add_assoc,Nat.sub_sub]

/-! Writing. -/

structure Appended (s t : State) (bytes : List UInt8) : Prop where
  fits : bytes.length ≤ s.io.bufferLeft
  io : t.io = moved s.io bytes.length
  memory : t.memory = s.memory.writeBytes s.io.bufferCur bytes

/-- Where the program succeeds it appends these bytes. -/
def Appends {α : Type} (program : Io α) (bytes : List UInt8) : Prop :=
  ∀ s value t, program s = (some value,t) → Appended s t bytes

/-- Where the program succeeds it changes the memory only, so. -/
def Fills {α : Type} (program : Io α) (change : Memory → Memory) : Prop :=
  ∀ s value t, program s = (some value,t) → t.io = s.io ∧ t.memory = change s.memory

section Writing
variable {α β : Type}

theorem Appended.trans {s t u : State} {first second : List UInt8} (begins : Appended s t first) (ends : Appended t u second) :
    Appended s u (first ++ second) := by
  have fits := begins.fits
  have more := ends.fits
  rw [begins.io] at more
  simp only [moved] at more
  refine ⟨by rw [List.length_append]; omega,?_,?_⟩
  · rw [ends.io,begins.io,moved_moved,List.length_append]
  · rw [ends.memory,begins.memory,begins.io]
    exact Memory.writeBytes_append _ _ _ _

theorem appends_bind {first : Io α} {rest : α → Io β} {before after : List UInt8} (begins : Appends first before)
    (goesOn : ∀ value, Appends (rest value) after) : Appends (first >>= rest) (before ++ after) := by
  intro s result u done
  obtain ⟨value,t,ran,next⟩ := bind_success done
  exact (begins s value t ran).trans (goesOn value t result u next)

theorem appends_pure (value : α) : Appends (pure value : Io α) [] := by
  intro s result t done
  cases done
  exact ⟨Nat.zero_le _,rfl,(Memory.writeBytes_nil _ _).symm⟩

theorem appends_fail {bytes : List UInt8} : Appends (fail : Io α) bytes := by
  intro s value t done
  cases done

theorem appends_overflows {bytes : List UInt8} : Appends (overflows : Io α) bytes := by
  intro s value t done
  cases done

theorem put_run (address : Nat) (bytes : List UInt8) (s : State) :
    put address bytes s =
      (some (),⟨s.memory.writeBytes address bytes,s.io,s.accesses ++ [(address,bytes.length)]⟩) := rfl

theorem fills_put (address : Nat) (bytes : List UInt8) : Fills (put address bytes) fun memory => memory.writeBytes address bytes := by
  intro s value t done
  rw [put_run] at done
  cases done
  exact ⟨rfl,rfl⟩

theorem fills_secured (outcome : Secure) (ptr destMax : Nat) (bytes : List UInt8) :
    Fills (secured outcome ptr destMax bytes) fun memory => memory.writeBytes ptr bytes := by
  cases outcome with
  | done => exact fills_put ptr bytes
  | refused =>
    intro s value t done
    cases done
  | cleared =>
    intro s value t done
    cases done

theorem fills_bind {first : Io α} {rest : α → Io β} {change other : Memory → Memory} (begins : Fills first change)
    (goesOn : ∀ value, Fills (rest value) other) : Fills (first >>= rest) fun memory => other (change memory) := by
  intro s result u done
  obtain ⟨value,t,ran,next⟩ := bind_success done
  obtain ⟨io,memory⟩ := begins s value t ran
  obtain ⟨last,final⟩ := goesOn value t result u next
  exact ⟨last.trans io,by rw [final,memory]⟩

theorem ioPush_some_iff {size ptr : Nat} {s t : State} : ioPush size s = (some ptr,t) ↔
    ipcIoAvailable s.io = true ∧ ioAlign size ≤ s.io.bufferLeft ∧ ptr = s.io.bufferCur ∧ t = { s with io := moved s.io (ioAlign size) } :=
  take_some_iff fun _ => rfl

theorem ioPushUnaligned_some_iff {size ptr : Nat} {s t : State} : ioPushUnaligned size s = (some ptr,t) ↔
    ipcIoAvailable s.io = true ∧ size ≤ s.io.bufferLeft ∧ ptr = s.io.bufferCur ∧ t = { s with io := moved s.io size } :=
  take_some_iff fun _ => rfl

theorem ioPop_some_iff {size ptr : Nat} {s t : State} : ioPop size s = (some ptr,t) ↔
    ipcIoAvailable s.io = true ∧ ioAlign size ≤ s.io.bufferLeft ∧ ptr = s.io.bufferCur ∧ t = { s with io := moved s.io (ioAlign size) } :=
  take_some_iff fun _ => rfl

theorem ioPopUnaligned_some_iff {size ptr : Nat} {s t : State} : ioPopUnaligned size s = (some ptr,t) ↔
    ipcIoAvailable s.io = true ∧ size ≤ s.io.bufferLeft ∧ ptr = s.io.bufferCur ∧ t = { s with io := moved s.io size } :=
  take_some_iff fun _ => rfl

/-- Space is taken and then filled. -/
theorem appends_push {size : Nat} {body : Nat → Io α} {bytes : List UInt8} (length : ioAlign size = bytes.length)
    (filled : ∀ ptr, Fills (body ptr) fun memory => memory.writeBytes ptr bytes) : Appends (ioPush size >>= body) bytes := by
  intro s result u done
  obtain ⟨ptr,t,ran,next⟩ := bind_success done
  obtain ⟨-,fits,rfl,rfl⟩ := ioPush_some_iff.mp ran
  obtain ⟨io,memory⟩ := filled _ _ result u next
  rw [length] at fits io
  exact ⟨fits,io,memory⟩

theorem appends_pushUnaligned {size : Nat} {body : Nat → Io α} {bytes : List UInt8} (length : size = bytes.length)
    (filled : ∀ ptr, Fills (body ptr) fun memory => memory.writeBytes ptr bytes) :
    Appends (ioPushUnaligned size >>= body) bytes := by
  intro s result u done
  obtain ⟨ptr,t,ran,next⟩ := bind_success done
  obtain ⟨-,fits,rfl,rfl⟩ := ioPushUnaligned_some_iff.mp ran
  obtain ⟨io,memory⟩ := filled _ _ result u next
  rw [length] at fits io
  exact ⟨fits,io,memory⟩

theorem appends_writeWord [Word α] (value : α) (aligned : ioAlign (Word.width α) = Word.width α) :
    Appends (writeWord value) (Word.bytes value) :=
  appends_push (by rw [Word.bytes_length,aligned]) fun ptr => fills_put ptr _

theorem appends_writeWordUnaligned [Word α] (value : α) : Appends (writeWordUnaligned value) (Word.bytes value) :=
  appends_pushUnaligned (Word.bytes_length value).symm fun ptr => fills_put ptr _

theorem padded_length (bytes : List UInt8) : (Wire.padded bytes).length = (bytes.length+3)/4*4 := by
  rw [Wire.padded,List.length_append,List.length_replicate]
  omega

theorem counted_length (count : Nat) (bytes : List UInt8) : (Wire.counted count bytes).length = 4+bytes.length := by
  rw [Wire.counted,List.length_append,Word.bytes_length]
  rfl

theorem appends_counted {count : Nat} {program : Io α} {bytes : List UInt8} (appends : Appends program bytes) :
    Appends (do
      writeUint32 (.ofNat count)
      program) (Wire.counted count bytes) :=
  appends_bind (appends_writeWord _ rfl) fun _ => appends

variable (platform : Platform)

theorem fills_memcpyS (ptr destMax : Nat) (source : List UInt8) :
    Fills (memcpyS platform ptr destMax source) fun memory => memory.writeBytes ptr source := fills_secured _ ptr destMax source

theorem fills_memsetS (ptr destMax count : Nat) :
    Fills (memsetS platform ptr destMax count) fun memory => memory.writeBytes ptr (List.replicate count 0) :=
  fills_secured _ ptr destMax _

theorem fills_cleared (ptr destMax : Nat) (source : List UInt8) :
    Fills (do
      memsetS platform ptr destMax destMax
      memcpyS platform ptr destMax source)
      fun memory => memory.writeBytes ptr (source ++ List.replicate (destMax-source.length) 0) := by
  have filled := fills_bind (fills_memsetS platform ptr destMax destMax) fun _ =>
    fills_memcpyS platform ptr destMax source
  simpa only [Memory.writeBytes_over,List.drop_replicate] using filled

/-- The bytes are copied, and the space behind them is cleared. -/
theorem fills_terminated {ptr behind destMax rest count : Nat} {source : List UInt8} (next : behind = ptr+source.length) :
    Fills (do
      memcpyS platform ptr destMax source
      memsetS platform behind rest count)
      fun memory => memory.writeBytes ptr (source ++ List.replicate count 0) := by
  subst next
  have filled := fills_bind (fills_memcpyS platform ptr destMax source) fun _ =>
    fills_memsetS platform (ptr+source.length) rest count
  simpa only [Memory.writeBytes_append] using filled

theorem appends_writeString (value : List UInt8) :
    Appends (writeString platform value) (Wire.encode (.string value)) := by
  unfold writeString
  dsimp only
  split
  · exact appends_overflows
  · rename_i short
    have whole : min (cString value).length maxIoSize = (cString value).length := by omega
    have small : (cString value).length+1 < 2^63 := by
      unfold maxIoSize at short whole
      omega
    have length : (cString value).length+1 = (cString value ++ [0]).length := by
      rw [List.length_append,List.length_singleton]
    rw [whole]
    apply appends_counted
    rw [ioAlign_of_small small,length]
    apply appends_push
    · rw [padded_length,← length,ioAlign_of_small small]
    · intro ptr
      exact fills_cleared platform ptr _ _

theorem appends_writeBuffer (data : List UInt8) :
    Appends (writeBuffer platform data) (Wire.padded data) := by
  unfold writeBuffer
  split
  · exact appends_fail
  split
  · exact appends_overflows
  · rename_i limited
    unfold maxIoSize at limited
    dsimp only
    rw [ioAlign_of_small (show data.length < 2^63 by omega)]
    apply appends_push
    · rw [padded_length,ioAlign_of_small (by omega)]
      omega
    · intro ptr
      exact fills_terminated platform rfl

theorem appends_writeRawData (data : List UInt8) : Appends (writeRawData platform data) (Wire.encode (.rawData data)) := by
  unfold writeRawData
  split
  · exact appends_fail
  split
  · exact appends_overflows
  · exact appends_counted (appends_writeBuffer platform data)

theorem array_terminated (value : List UInt16) : Word.array (value ++ [0]) = Word.array value ++ [0,0] := by
  rw [Word.array,List.flatMap_append]
  rfl

/-- The array argument is smaller than the address space, its terminator may not be: then the write fails. -/
theorem appends_writeString16 (value : List UInt16) (sized : value.length*2 < 2^64) :
    Appends (writeString16 platform value) (Wire.encode (.string16 value)) := by
  unfold writeString16
  split
  · exact appends_fail
  dsimp only
  split
  · exact appends_overflows
  · rename_i limited
    apply appends_counted
    by_cases wraps : (value.length+1)*2 < 2^64
    · rw [wrap64_of_lt wraps] at limited ⊢
      unfold maxIoSize at limited
      unfold writeBufferAddTerminator
      rw [if_neg (by omega),if_neg (by unfold maxIoSize; omega)]
      dsimp only
      have size : (value.length+1)*2-2 = (Word.array value).length := by
        rw [Word.array_length]
        show _ = value.length*2
        omega
      have length : (Word.array (value ++ [0])).length = (value.length+1)*2 := by
        rw [Word.array_length,List.length_append,List.length_singleton]
        rfl
      rw [ioAlign_of_small (show (value.length+1)*2 < 2^63 by omega)]
      apply appends_push
      · rw [padded_length,ioAlign_of_small (by omega),length]
        omega
      · intro ptr
        have zeros : ∀ more, [0,0] ++ List.replicate more (0 : UInt8) = List.replicate (more+2) 0 := fun _ => rfl
        rw [size,List.take_length,Wire.padded,length,array_terminated,List.append_assoc,zeros]
        exact fills_terminated platform rfl
    · have last : value.length = 2^63-1 := by omega
      rw [last]
      exact appends_fail

theorem appends_writeInterfaceToken (name : List UInt16) (sized : name.length*2 < 2^64) :
    Appends (writeInterfaceToken platform name) (Wire.encode (.interfaceToken name)) := by
  unfold writeInterfaceToken
  split
  · exact appends_fail
  split
  · exact appends_overflows
  · exact appends_writeString16 platform name sized

theorem appends_writeVector [Word α] (val : List α) (sized : val.length*Word.width α < 2^64) :
    Appends (writeVector platform val) (Wire.counted val.length (Word.array val)) := by
  unfold writeVector
  split
  · exact appends_fail
  · apply appends_counted
    dsimp only
    rw [wrap64_of_lt sized,← Word.array_length]
    apply appends_pushUnaligned rfl
    intro ptr
    rw [List.take_length]
    exact fills_memcpyS platform ptr _ _

theorem appends_forEach {body : α → Io β} {bytes : α → List UInt8} (items : List α)
    (each : ∀ item ∈ items, Appends (body item) (bytes item)) : Appends (forEach body items) (items.flatMap bytes) := by
  induction items with
  | nil => exact appends_pure []
  | cons item items ih =>
    have later := ih fun other member => each other (List.mem_cons_of_mem item member)
    rw [List.flatMap_cons,← List.append_nil (items.flatMap bytes)]
    exact appends_bind (each item List.mem_cons_self) fun _ => appends_bind later fun _ => appends_pure _

theorem appends_writeEach {write : α → Io Unit} {bytes : α → List UInt8} (each : ∀ item, Appends (write item) (bytes item))
    (val : List α) : Appends (writeEach write val) (Wire.counted val.length (val.flatMap bytes)) := by
  unfold writeEach
  split
  · exact appends_fail
  · apply appends_counted
    rw [← List.append_nil (val.flatMap bytes)]
    exact appends_bind (appends_forEach val fun item _ => each item) fun _ => appends_pure ()

theorem appends_write (item : Item) (sized : Wire.arraySize item < 2^64) : Appends (item.write platform) (Wire.encode item) := by
  cases item with
  | bool _ | int8 _ | uint8 _ | int16 _ | uint16 _ | int32 _ | uint32 _ | int64 _ | uint64 _ | float _ | double _ | pointer _ =>
    exact appends_writeWord _ rfl
  | boolUnaligned _ | int8Unaligned _ | uint8Unaligned _ | int16Unaligned _ | uint16Unaligned _ =>
    exact appends_writeWordUnaligned _
  | string value => exact appends_writeString platform value
  | string16 value => exact appends_writeString16 platform value sized
  | interfaceToken name => exact appends_writeInterfaceToken platform name sized
  | buffer data => exact appends_writeBuffer platform data
  | rawData data => exact appends_writeRawData platform data
  | boolVector val => exact appends_writeEach (fun _ => appends_writeWord _ rfl) val
  | int16Vector val => exact appends_writeEach (fun _ => appends_writeWord _ rfl) val
  | int8Vector val | int32Vector val | int64Vector val | uint8Vector val | uint16Vector val | uint32Vector val | uint64Vector val
  | floatVector val | doubleVector val => exact appends_writeVector platform val sized

end Writing

/-! Reading. -/

/-- The bytes are there to be read. -/
structure Ready (s : State) (bytes : List UInt8) : Prop where
  available : ipcIoAvailable s.io = true
  fits : bytes.length ≤ s.io.bufferLeft
  there : s.memory.readBytes s.io.bufferCur bytes.length = bytes

/-- Over these bytes the program takes all of them and yields a value that is right for the memory. -/
def Takes {α : Type} (program : Io α) (bytes : List UInt8) (right : Memory → α → Prop) : Prop :=
  ∀ s, Ready s bytes →
    ∃ value t, program s = (some value,t) ∧ right s.memory value ∧ t.memory = s.memory ∧ t.io = moved s.io bytes.length

def Yields {α : Type} (program : Io α) (bytes : List UInt8) (value : α) : Prop :=
  Takes program bytes fun _ result => result = value

/-- A program that only looks at the memory. -/
def Views {α : Type} (program : Io α) (s : State) (right : Memory → α → Prop) : Prop :=
  ∃ value t, program s = (some value,t) ∧ right s.memory value ∧ t.memory = s.memory ∧ t.io = s.io

section Reading
variable {α β : Type} {right : Memory → α → Prop}

theorem Ready.front {s : State} {first second : List UInt8} (ready : Ready s (first ++ second)) : Ready s first := by
  have fits := ready.fits
  rw [List.length_append] at fits
  exact ⟨ready.available,by omega,(Memory.readBytes_parts ready.there).1⟩

theorem Ready.back {s t : State} {first second : List UInt8} (ready : Ready s (first ++ second)) (memory : t.memory = s.memory)
    (io : t.io = moved s.io first.length) : Ready t second := by
  have fits := ready.fits
  rw [List.length_append] at fits
  refine ⟨by rw [io]; exact ready.available,?_,?_⟩
  · rw [io]
    simp only [moved]
    omega
  · rw [io,memory]
    exact (Memory.readBytes_parts ready.there).2

theorem takes_bind {first : Io β} {rest : β → Io α} {value : β} {before after : List UInt8} (begins : Yields first before value)
    (goesOn : Takes (rest value) after right) : Takes (first >>= rest) (before ++ after) right := by
  intro s ready
  obtain ⟨_,t,ran,rfl,memory,io⟩ := begins s ready.front
  obtain ⟨result,u,next,good,same,last⟩ := goesOn t (ready.back memory io)
  rw [memory] at good same
  refine ⟨result,u,by rw [bind_some ran,next],good,same,?_⟩
  rw [last,io,moved_moved,List.length_append]

theorem takes_pure {value : α} (good : ∀ memory, right memory value) : Takes (pure value : Io α) [] right :=
  fun s _ => ⟨value,s,rfl,good s.memory,rfl,rfl⟩

theorem yields_map {program : Io α} {bytes : List UInt8} {value : α} (yields : Yields program bytes value) (f : α → β) :
    Yields (f <$> program) bytes (f value) := by
  rw [← List.append_nil bytes]
  exact takes_bind yields (takes_pure fun _ => rfl)

theorem yields_attempt {program : Io α} {bytes : List UInt8} {value : α} (yields : Yields program bytes value) :
    Yields (attempt program) bytes (some value) := by
  intro s ready
  obtain ⟨_,t,ran,rfl,memory,io⟩ := yields s ready
  exact ⟨some _,t,by rw [attempt,ran],rfl,memory,io⟩

theorem ioPop_run {size : Nat} {s : State} (available : ipcIoAvailable s.io = true) (fits : ioAlign size ≤ s.io.bufferLeft) :
    ioPop size s = (some s.io.bufferCur,{ s with io := moved s.io (ioAlign size) }) :=
  ioPop_some_iff.mpr ⟨available,fits,rfl,rfl⟩

theorem ioPopUnaligned_run {size : Nat} {s : State} (available : ipcIoAvailable s.io = true) (fits : size ≤ s.io.bufferLeft) :
    ioPopUnaligned size s = (some s.io.bufferCur,{ s with io := moved s.io size }) :=
  ioPopUnaligned_some_iff.mpr ⟨available,fits,rfl,rfl⟩

/-- The bytes are taken as a whole and then looked at. -/
theorem takes_popped {pop : Io Nat} {body : Nat → Io α} {bytes : List UInt8}
    (popped : ∀ s, Ready s bytes → pop s = (some s.io.bufferCur,{ s with io := moved s.io bytes.length }))
    (viewed : ∀ ptr s, s.memory.readBytes ptr bytes.length = bytes → Views (body ptr) s right) :
    Takes (pop >>= body) bytes right := by
  intro s ready
  obtain ⟨value,t,next,good,memory,io⟩ := viewed s.io.bufferCur { s with io := moved s.io bytes.length } ready.there
  exact ⟨value,t,(bind_some (popped s ready)).trans next,good,memory,io⟩

theorem takes_pop {size : Nat} {body : Nat → Io α} {bytes : List UInt8} (length : ioAlign size = bytes.length)
    (viewed : ∀ ptr s, s.memory.readBytes ptr bytes.length = bytes → Views (body ptr) s right) :
    Takes (ioPop size >>= body) bytes right := by
  apply takes_popped _ viewed
  intro s ready
  rw [← length]
  exact ioPop_run ready.available (by rw [length]; exact ready.fits)

theorem takes_popUnaligned {body : Nat → Io α} {bytes : List UInt8}
    (viewed : ∀ ptr s, s.memory.readBytes ptr bytes.length = bytes → Views (body ptr) s right) :
    Takes (ioPopUnaligned bytes.length >>= body) bytes right :=
  takes_popped (fun _ ready => ioPopUnaligned_run ready.available ready.fits) viewed

theorem views_load {s : State} (α : Type) [Word α] {right : Memory → α → Prop} {address : Nat}
    (good : right s.memory (s.memory.load α address)) : Views (load α address) s right :=
  ⟨_,_,rfl,good,rfl,rfl⟩

theorem views_pure {s : State} {value : α} (good : right s.memory value) : Views (pure value : Io α) s right :=
  ⟨_,_,rfl,good,rfl,rfl⟩

/-- A value of a narrower type at the front of a wider one. -/
theorem yields_readWord [Word α] [Word β] {wide : β} {value : α} (aligned : ioAlign (Word.width α) = Word.width β)
    (narrower : Word.width α ≤ Word.width β) (narrow : Word.ofBits (Word.bits wide % 256^Word.width α) = value) :
    Yields (readWord α) (Word.bytes wide) value := by
  apply takes_pop (by rw [Word.bytes_length,aligned])
  intro ptr s there
  rw [Word.bytes_length] at there
  exact views_load α (Memory.load_of_front there narrower narrow)

theorem yields_readWord_self [Word α] (value : α) (aligned : ioAlign (Word.width α) = Word.width α) :
    Yields (readWord α) (Word.bytes value) value :=
  yields_readWord aligned le_rfl (by rw [Nat.mod_eq_of_lt (Word.bits_lt value),Word.ofBits_bits])

theorem yields_readWordUnaligned [Word α] (value : α) : Yields (readWordUnaligned α) (Word.bytes value) value := by
  unfold readWordUnaligned
  rw [← Word.bytes_length value]
  apply takes_popUnaligned
  intro ptr s there
  rw [Word.bytes_length] at there
  exact views_load α (Memory.load_of_bytes there)

theorem takes_counted {count : Nat} {rest : UInt32 → Io α} {bytes : List UInt8} (small : count < 2^32)
    (goesOn : ∀ size : UInt32, size.toNat = count → Takes (rest size) bytes right) :
    Takes (readUint32 >>= rest) (Wire.counted count bytes) right :=
  takes_bind (yields_readWord_self _ rfl) (goesOn _ (UInt32.toNat_ofNat_of_lt small))

theorem yields_elements [Word α] {read : Io (Nat × Nat)} {bytes : List UInt8} {values : List α}
    (taken : Takes read bytes fun memory block => memory.loads α block.1 block.2 = values) :
    Yields (elements α read) bytes values := by
  intro s ready
  obtain ⟨block,t,ran,good,memory,io⟩ := taken s ready
  rw [← memory] at good
  exact ⟨_,t,bind_some ran,good,memory,io⟩

theorem array_bytes (bytes : List UInt8) : Word.array bytes = bytes := by
  have single : ∀ byte : UInt8, Word.bytes byte = [byte] := by
    intro byte
    have low : byte.toNat % 256 = byte.toNat := Nat.mod_eq_of_lt byte.toNat_lt
    simp only [Word.bytes,Word.width,Word.bits,toLE,low,UInt8.ofNat_toNat]
  rw [Word.array,funext single,List.flatMap_singleton']

theorem loads_bytes {memory : Memory} {ptr : Nat} {bytes : List UInt8} (there : memory.readBytes ptr bytes.length = bytes) :
    memory.loads UInt8 ptr bytes.length = bytes := by
  apply Memory.loads_of_bytes
  rw [array_bytes]
  exact (congrArg (memory.readBytes ptr) (Nat.mul_one bytes.length)).trans there

theorem loads_array [Word α] {memory : Memory} {ptr : Nat} {values : List α}
    (there : memory.readBytes ptr (Word.array values).length = Word.array values) :
    memory.loads α ptr values.length = values := by
  apply Memory.loads_of_bytes
  rwa [Word.array_length] at there

theorem takes_readString {str : List UInt8} (short : str.length ≤ maxIoSize) :
    Takes readString (Wire.counted str.length (Wire.padded (str ++ [0])))
      fun memory block => memory.loads UInt8 block.1 block.2 = str := by
  unfold maxIoSize at short
  apply takes_counted (by omega)
  intro size same
  rw [if_neg (by unfold maxIoSize; omega),same]
  apply takes_pop
  · rw [ioAlign_of_small (by omega),padded_length,List.length_append,List.length_singleton]
  · intro ptr s there
    rw [Wire.padded,List.append_assoc] at there
    exact views_pure (loads_bytes (Memory.readBytes_parts there).1)

theorem takes_readString16 {value : List UInt16} (short : value.length ≤ maxIoSize/2-1) :
    Takes readString16 (Wire.counted value.length (Wire.padded (Word.array (value ++ [0]))))
      fun memory block => memory.loads UInt16 block.1 block.2 = value := by
  unfold maxIoSize at short
  apply takes_counted (by omega)
  intro size same
  rw [if_neg (by unfold maxIoSize; omega),same]
  apply takes_pop
  · rw [ioAlign_of_small (by omega),padded_length,Word.array_length,List.length_append,List.length_singleton]
    rfl
  · intro ptr s there
    rw [Wire.padded,array_terminated,List.append_assoc] at there
    obtain ⟨front,back⟩ := Memory.readBytes_parts there
    have last : s.memory.load UInt16 (ptr+value.length*2) = 0 := by
      apply Memory.load_of_bytes
      rw [Word.array_length] at back
      exact (Memory.readBytes_parts back).1
    refine ⟨(ptr,value.length),{ s with accesses := s.accesses ++ [(ptr+value.length*2,2)] },?_,loads_array front,rfl,rfl⟩
    have loaded : load UInt16 (ptr+value.length*2) s =
        (some (s.memory.load UInt16 (ptr+value.length*2)),{ s with accesses := s.accesses ++ [(ptr+value.length*2,2)] }) := rfl
    rw [bind_some loaded,last]
    rfl

theorem takes_readBuffer {data : List UInt8} {size : UInt64} (same : size.toNat = data.length) (some : data ≠ [])
    (short : data.length ≤ maxIoSize) :
    Takes (readBuffer size) (Wire.padded data) fun memory block => memory.loads UInt8 block.1 block.2 = data := by
  unfold maxIoSize at short
  have positive := List.length_pos_iff.mpr some
  have nonzero : size ≠ 0 := by
    rintro rfl
    rw [← same] at positive
    cases positive
  unfold readBuffer
  rw [if_neg nonzero,same]
  apply takes_pop
  · rw [ioAlign_of_small (by omega),padded_length]
  · intro ptr s there
    exact views_pure (loads_bytes (Memory.readBytes_parts there).1)

theorem takes_readRawData {data : List UInt8} {size : UInt64} (same : size.toNat = data.length) (some : data ≠ [])
    (short : data.length ≤ maxIoSize) :
    Takes (readRawData size) (Wire.counted data.length (Wire.padded data))
      fun memory block => memory.loads UInt8 block.1 block.2 = data := by
  have limit := short
  unfold maxIoSize at limit
  have positive := List.length_pos_iff.mpr some
  have nonzero : size ≠ 0 := by
    rintro rfl
    rw [← same] at positive
    cases positive
  have narrow : size.toUInt32 = UInt32.ofNat data.length := by
    apply UInt32.toNat_inj.mp
    rw [UInt64.toNat_toUInt32,same,UInt32.toNat_ofNat']
  unfold readRawData
  rw [if_neg nonzero]
  apply takes_bind (yields_attempt (yields_readWord_self _ rfl))
  rw [Option.getD_some,if_neg (by rw [narrow]; exact not_not_intro rfl)]
  apply takes_readBuffer _ some short
  rw [UInt32.toNat_toUInt64]
  exact UInt32.toNat_ofNat_of_lt (show data.length < 2^32 by omega)

theorem takes_readVector [Word α] {values : List α} {limit : Option Nat} (small : values.length < 2^32)
    (allowed : ∀ most ∈ limit, values.length ≤ most) :
    Takes (readVector (Word.width α) limit) (Wire.counted values.length (Word.array values))
      fun memory block => memory.loads α block.1 block.2 = values := by
  apply takes_counted small
  intro size same
  have within : limit.any (· < size.toNat) = false := by
    cases limit with
    | none => rfl
    | some most =>
      have bound := allowed most rfl
      simp only [Option.any_some,decide_eq_false_iff_not]
      omega
  rw [within,if_neg Bool.false_ne_true,same,← Word.array_length]
  apply takes_popUnaligned
  intro ptr s there
  exact views_pure (loads_array there)

theorem forEach_const {γ : Type} (program : Io α) {first : List β} {second : List γ} (same : first.length = second.length) :
    forEach (fun _ => program) first = forEach (fun _ => program) second := by
  induction first generalizing second with
  | nil =>
    rw [List.length_eq_zero_iff.mp same.symm]
    rfl
  | cons item items ih =>
    obtain ⟨other,others,rfl⟩ := List.exists_cons_of_length_eq_add_one same.symm
    simp only [forEach,ih (Nat.succ.inj same)]

theorem yields_forEach {γ : Type} {body : β → Io α} {kind : γ → β} {bytes : γ → List UInt8} {value : γ → α} (items : List γ)
    (each : ∀ item ∈ items, Yields (body (kind item)) (bytes item) (value item)) :
    Yields (forEach body (items.map kind)) (items.flatMap bytes) (items.map value) := by
  induction items with
  | nil => exact takes_pure fun _ => rfl
  | cons item items ih =>
    have later := ih fun other member => each other (List.mem_cons_of_mem item member)
    rw [List.flatMap_cons,← List.append_nil (items.flatMap bytes)]
    exact takes_bind (each item List.mem_cons_self) (takes_bind later (takes_pure fun _ => rfl))

theorem yields_readEach {platform : Platform} {values : List α} {wide : α → Int32} {limit width : Nat} {convert : Int32 → α}
    (back : ∀ value, convert (wide value) = value) (small : values.length < 2^32) (allowed : values.length ≤ limit)
    (block : platform.malloc (values.length*width) = true) :
    Yields (readEach platform limit width convert)
      (Wire.counted values.length (values.flatMap fun value => Word.bytes (wide value))) values := by
  apply takes_counted small
  intro size same
  rw [if_neg (by omega),same,block,if_neg (by simp)]
  have turn : ∀ value ∈ values, Yields (do
      let read ← readWord Int32
      pure (convert read) : Io α) (Word.bytes (wide value)) value := by
    intro value _
    have read := yields_map (yields_readWord_self (wide value) rfl) convert
    rwa [back] at read
  have all : Yields (forEach (fun _ : α => do
      let read ← readWord Int32
      pure (convert read)) (values.map id)) (values.flatMap fun value => Word.bytes (wide value)) (values.map id) :=
    yields_forEach values turn
  rw [List.map_id] at all
  rwa [forEach_const _ (List.length_range (n := values.length))]

/-! What is left of a widened value when its low bytes are read. -/

theorem narrow_bool (value : Bool) : (Word.ofBits (Word.bits (Wire.wideBool value) % 256^1) : Bool) = value := by
  cases value <;> rfl

theorem narrow_uint8 (value : UInt8) : UInt8.ofNat (value.toUInt32.toNat % 256) = value := by
  rw [UInt8.toNat_toUInt32,Nat.mod_eq_of_lt value.toNat_lt,UInt8.ofNat_toNat]

theorem narrow_uint16 (value : UInt16) : UInt16.ofNat (value.toUInt32.toNat % 65536) = value := by
  rw [UInt16.toNat_toUInt32,Nat.mod_eq_of_lt value.toNat_lt,UInt16.ofNat_toNat]

theorem setWidth_signExtend {w v : Nat} (x : BitVec w) (wider : w ≤ v) : (x.signExtend v).setWidth w = x := by
  ext i inside
  have within : i < v := by omega
  rw [BitVec.getElem_setWidth,BitVec.getLsbD_signExtend,if_pos inside,BitVec.getLsbD_eq_getElem inside,decide_eq_true within,
    Bool.true_and]

theorem low_signExtend {w v : Nat} (x : BitVec w) (wider : w ≤ v) : BitVec.ofNat w ((x.signExtend v).toNat % 2^w) = x := by
  apply BitVec.eq_of_toNat_eq
  rw [BitVec.toNat_ofNat,Nat.mod_mod,← BitVec.toNat_setWidth,setWidth_signExtend x wider]

theorem narrow_int8 (value : Int8) : (UInt8.ofNat (value.toInt32.toUInt32.toNat % 256)).toInt8 = value :=
  Int8.toBitVec_inj.mp (low_signExtend value.toBitVec (v := 32) (by decide))

theorem narrow_int16 (value : Int16) : (UInt16.ofNat (value.toInt32.toUInt32.toNat % 65536)).toInt16 = value :=
  Int16.toBitVec_inj.mp (low_signExtend value.toBitVec (v := 32) (by decide))

theorem convert_bool (value : Bool) : (Wire.wideBool value != 0) = value := by
  cases value <;> rfl

theorem widened_length (wide : α → Int32) (values : List α) :
    (values.flatMap fun value => Word.bytes (wide value)).length = values.length*4 := by
  have array := Word.array_length (values.map wide)
  rwa [Word.array,List.flatMap_map,List.length_map] at array

/-- A block that has no bytes cannot be read: its size is the argument of the read call. -/
def Filled : Item → Prop
  | .buffer data => data ≠ []
  | .rawData data => data ≠ []
  | _ => True

/-- The block that the reader of a vector asks for, where it reads element by element. -/
def blockSize : Item → Option Nat
  | .boolVector val => some val.length
  | .int16Vector val => some (val.length*2)
  | _ => none

theorem yields_read (platform : Platform) (item : Item) (block : ∀ size, blockSize item = some size → platform.malloc size = true)
    (filled : Filled item) (short : (Wire.encode item).length ≤ maxIoSize) :
    Yields ((Wire.kind item).read platform) (Wire.encode item) (Wire.value item) := by
  have limit := short
  unfold maxIoSize at limit
  cases item with
  | bool value => exact yields_map (yields_readWord rfl (by decide) (narrow_bool value)) _
  | int8 value => exact yields_map (yields_readWord rfl (by decide) (narrow_int8 value)) _
  | uint8 value => exact yields_map (yields_readWord rfl (by decide) (narrow_uint8 value)) _
  | int16 value => exact yields_map (yields_readWord rfl (by decide) (narrow_int16 value)) _
  | uint16 value => exact yields_map (yields_readWord rfl (by decide) (narrow_uint16 value)) _
  | int32 value | uint32 value | int64 value | uint64 value | float value | double value | pointer value =>
    exact yields_map (yields_readWord_self value rfl) _
  | boolUnaligned value | int8Unaligned value | uint8Unaligned value | int16Unaligned value | uint16Unaligned value =>
    exact yields_map (yields_readWordUnaligned value) _
  | string value =>
    refine yields_map (yields_elements (takes_readString ?_)) _
    rw [Wire.encode,counted_length,padded_length,List.length_append,List.length_singleton] at short
    omega
  | string16 value | interfaceToken value =>
    refine yields_map (yields_elements (takes_readString16 ?_)) _
    rw [Wire.encode,counted_length,padded_length,Word.array_length,List.length_append,List.length_singleton] at limit
    simp only [Word.width] at limit
    unfold maxIoSize
    omega
  | buffer data =>
    rw [Wire.encode,padded_length] at limit
    refine yields_map (yields_elements (takes_readBuffer ?_ filled ?_)) _
    · exact UInt64.toNat_ofNat_of_lt (show data.length < 2^64 by omega)
    · unfold maxIoSize
      omega
  | rawData data =>
    rw [Wire.encode,counted_length,padded_length] at limit
    refine yields_map (yields_elements (takes_readRawData ?_ filled ?_)) _
    · exact UInt64.toNat_ofNat_of_lt (show data.length < 2^64 by omega)
    · unfold maxIoSize
      omega
  | boolVector val =>
    rw [Wire.encode,counted_length,widened_length] at limit
    refine yields_map (yields_readEach convert_bool ?_ ?_ ?_) _
    · omega
    · unfold maxIoSize
      omega
    · rw [Nat.mul_one]
      exact block _ rfl
  | int16Vector val =>
    rw [Wire.encode,counted_length,widened_length] at limit
    refine yields_map (yields_readEach Int16.toInt16_toInt32 ?_ ?_ (block _ rfl)) _
    · omega
    · unfold maxIoSize
      omega
  | int8Vector val | uint8Vector val =>
    rw [Wire.encode,counted_length,Word.array_length] at limit
    simp only [Word.width] at limit
    refine yields_map (yields_elements (takes_readVector ?_ fun _ absent => by cases absent)) _
    omega
  | int32Vector val | int64Vector val | uint16Vector val | uint32Vector val | uint64Vector val | floatVector val
  | doubleVector val =>
    rw [Wire.encode,counted_length,Word.array_length] at limit
    simp only [Word.width] at limit
    refine yields_map (yields_elements (takes_readVector ?_ ?_)) _
    · omega
    · intro most member
      cases member
      unfold maxIoSize
      omega

end Reading

/-! The two together. -/

theorem filled_of_written {platform : Platform} {item : Item} {s t : State} {done : Unit}
    (written : item.write platform s = (some done,t)) : Filled item := by
  cases item with
  | buffer data =>
    rintro rfl
    cases written
  | rawData data =>
    rintro rfl
    cases written
  | _ => trivial

theorem filled_of_forEach {platform : Platform} {items : List Item} {s t : State} {done : List Unit}
    (written : forEach (Item.write platform) items s = (some done,t)) : ∀ item ∈ items, Filled item := by
  induction items generalizing s t done with
  | nil => exact fun _ absent => absurd absent List.not_mem_nil
  | cons first items ih =>
    obtain ⟨_,middle,one,rest⟩ := bind_success written
    obtain ⟨_,_,others,_⟩ := bind_success rest
    intro item member
    rcases List.mem_cons.mp member with rfl | later
    · exact filled_of_written one
    · exact ih others item later

theorem encode_length_le {item : Item} {items : List Item} (member : item ∈ items) :
    (Wire.encode item).length ≤ (items.flatMap Wire.encode).length := by
  obtain ⟨front,back,rfl⟩ := List.append_of_mem member
  rw [List.flatMap_append,List.flatMap_cons,List.length_append,List.length_append]
  omega

/-- Write calls that all succeed on an `IpcIo` from `IpcIoInit`, and the matching read calls on an
`IpcIo` over the written bytes: each read call yields the value that was written, and all bytes are taken, if there is a
block for each vector that is read element by element. -/
theorem reads_back_what_was_written (writer reader : Platform) {items : List Item}
    (blocks : ∀ item ∈ items, ∀ size, blockSize item = some size → reader.malloc size = true) (sized : ∀ item ∈ items, Wire.arraySize item < 2^64)
    {io : IpcIo} {buffer bufferSize maxobjects : Nat} (valid : ValidInit buffer bufferSize maxobjects) {s t : State}
    (fresh : s.io = ipcIoInit io buffer bufferSize maxobjects) {done : List Unit}
    (written : forEach (Item.write writer) items s = (some done,t)) {r : State} (available : ipcIoAvailable r.io = true)
    (left : r.io.bufferLeft = t.io.bufferCur-t.io.bufferBase)
    (bytes : r.memory.readBytes r.io.bufferCur r.io.bufferLeft = t.memory.readBytes t.io.bufferBase r.io.bufferLeft) :
    ∃ u, forEach (Kind.read reader) (items.map Wire.kind) r = (some (items.map Wire.value),u) ∧
      u.io.bufferLeft = 0 ∧ u.io.bufferCur = r.io.bufferCur+(t.io.bufferCur-t.io.bufferBase) ∧ u.memory = r.memory := by
  have appended := appends_forEach items (fun item member => appends_write writer item (sized item member)) s done t written
  have start : s.io.bufferCur = s.io.bufferBase ∧ s.io.bufferLeft ≤ maxIoSize := by
    have size := valid.2.2.1
    rw [fresh,ipcIoInit_valid io valid]
    exact ⟨rfl,by simp only; omega⟩
  have length : t.io.bufferCur-t.io.bufferBase = (items.flatMap Wire.encode).length := by
    rw [appended.io]
    simp only [moved]
    omega
  have base : t.io.bufferBase = s.io.bufferCur := by
    rw [appended.io,start.1]
    rfl
  rw [length] at left ⊢
  have ready : Ready r (items.flatMap Wire.encode) := by
    refine ⟨available,left.ge,?_⟩
    rw [left] at bytes
    rw [bytes,appended.memory,base,Memory.readBytes_writeBytes]
  have each : ∀ item ∈ items, Yields ((Wire.kind item).read reader) (Wire.encode item) (Wire.value item) := by
    intro item member
    have fits := appended.fits
    have part := encode_length_le member
    exact yields_read reader item (blocks item member) (filled_of_forEach written item member) (by omega)
  obtain ⟨_,u,ran,rfl,memory,final⟩ := yields_forEach items each r ready
  refine ⟨u,ran,?_,?_,memory⟩
  · rw [final]
    simp only [moved]
    omega
  · rw [final]
    rfl

/-- Values aligned and unaligned, a string and two vectors. -/
def mixture : List Item := [.int8 (-3),.boolUnaligned true,.string [104,105],.int16Vector [-2,7],.uint16Vector [9]]

def ample : Platform := ⟨fun _ _ => .done,fun _ _ => .done,fun _ => true⟩

def emptyIo : State := ⟨fun _ => 0,ipcIoInit ⟨0,0,0,0,0,0,false,false⟩ 4096 64 1,[]⟩

/-- What a receiver of the written bytes starts with. -/
def received (t : State) : State :=
  ⟨t.memory,⟨t.io.bufferBase,0,t.io.bufferBase,0,t.io.bufferCur-t.io.bufferBase,0,true,false⟩,[]⟩

theorem reads_back_mixture : ∃ t u : State,
    forEach (Item.write ample) mixture emptyIo = (some [(),(),(),(),()],t) ∧
      forEach (Kind.read ample) (mixture.map Wire.kind) (received t) = (some mixture,u) ∧ u.io.bufferLeft = 0 := by
  have sized : ∀ item ∈ mixture, Wire.arraySize item < 2^64 := by decide
  have valid : ValidInit 4096 64 1 := ⟨by decide,by decide,by decide,by decide,by decide⟩
  have succeeds : (forEach (Item.write ample) mixture emptyIo).1 = some [(),(),(),(),()] := by decide +kernel
  generalize ended : forEach (Item.write ample) mixture emptyIo = result at succeeds
  obtain ⟨done,t⟩ := result
  cases succeeds
  have fresh : emptyIo.io = ipcIoInit ⟨0,0,0,0,0,0,false,false⟩ 4096 64 1 := rfl
  have available : ipcIoAvailable (received t).io = true := rfl
  obtain ⟨u,ran,left,_⟩ :=
    reads_back_what_was_written ample ample (fun _ _ _ _ => rfl) sized valid fresh ended available rfl rfl
  exact ⟨t,u,rfl,ran,left⟩

/-- One vector was written, and its reader gets no block. -/
theorem vector_lost_without_block : ∃ t : State,
    forEach (Item.write ample) [.boolVector [true]] emptyIo = (some [()],t) ∧ ipcIoAvailable (received t).io = true ∧
      ¬∃ u, forEach (Kind.read { ample with malloc := fun _ => false }) [Wire.kind (.boolVector [true])] (received t) =
        (some [Wire.value (.boolVector [true])],u) := by
  have both : (forEach (Item.write ample) [.boolVector [true]] emptyIo).1 = some [()] ∧
      (forEach (Kind.read { ample with malloc := fun _ => false }) [Wire.kind (.boolVector [true])]
        (received (forEach (Item.write ample) [.boolVector [true]] emptyIo).2)).1 = none := by decide +kernel
  generalize forEach (Item.write ample) [.boolVector [true]] emptyIo = result at both
  obtain ⟨done,t⟩ := result
  obtain ⟨succeeds,fails⟩ := both
  cases succeeds
  refine ⟨t,rfl,rfl,?_⟩
  rintro ⟨u,ran⟩
  rw [ran] at fails
  cases fails

end CommunicationIpc.SerializerRoundTrip
