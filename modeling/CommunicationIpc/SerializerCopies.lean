import CommunicationIpc.SerializerCursor

/-! The same calls on two `IpcIo` that are copies of each other, each in its own memory: they end in the same way, yield the same,
and leave copies again. -/
namespace CommunicationIpc.SerializerCopies
open CommunicationIpc.Library CommunicationIpc.Library.Program CommunicationIpc.Kernel.Serializer CommunicationIpc.SerializerCursor
open CommunicationIpc.Kernel.Package (wrap64)
open CommunicationIpc.Kernel.Framing.Lite (sizeSize)
open CommunicationIpc.Kernel.Translate (flatBinderObjectSize)
open CommunicationIpc.Package (wrap64_of_lt)

/-- Two regions with data areas of one size, and tables that are there. -/
structure Twins (first second : Region) : Prop where
  dataSize : first.dataSize = second.dataSize
  table : first.table ≠ 0
  table' : second.table ≠ 0

/-- The cursors stand at the same places. -/
structure Aligned (first second : Region) (io other : IpcIo) : Prop where
  left : Cursors first io
  right : Cursors second other
  bufferCur : io.bufferCur+second.data = other.bufferCur+first.data
  bufferLeft : io.bufferLeft = other.bufferLeft
  offsetsCur : io.offsetsCur+second.table = other.offsetsCur+first.table
  whole : sizeSize ∣ io.offsetsCur-first.table
  offsetsLeft : io.offsetsLeft = other.offsetsLeft
  initialized : io.initialized = true ∧ other.initialized = true
  overflow : io.overflow = other.overflow

def SameBytes (first second : Region) (memory other : Memory) : Prop :=
  ∀ i, i < first.dataSize → memory (first.data+i) = other (second.data+i)

/-- Where `known` is not so, nothing is said of the bytes. -/
structure Copy (known : Prop) (first second : Region) (s t : State) : Prop where
  io : Aligned first second s.io t.io
  bytes : known → SameBytes first second s.memory t.memory

/-- Two places of `size` bytes at the same offset. -/
def Spot (first second : Region) (size ptr other : Nat) : Prop :=
  first.Room ptr size ∧ ptr+second.data = other+first.data

/-- Two blocks of the same number of elements. -/
def Block (first second : Region) (width : Nat) (block other : Nat × Nat) : Prop :=
  block.2 = other.2 ∧ Spot first second (block.2*width) block.1 other.1

section Programs
variable {α β : Type} {known : Prop} {first second : Region}

theorem Spot.front {size width ptr other : Nat} (spot : Spot first second size ptr other) (fits : width ≤ size) :
    Spot first second width ptr other := ⟨spot.1.front fits,spot.2⟩

theorem Spot.part {size offset width ptr other : Nat} (spot : Spot first second size ptr other) (fits : offset+width ≤ size) :
    Spot first second width (ptr+offset) (other+offset) := ⟨spot.1.part fits,by have same := spot.2; omega⟩

theorem Spot.byte {size ptr other i : Nat} {memory twin : Memory} (spot : Spot first second size ptr other)
    (bytes : SameBytes first second memory twin) (inside : i < size) : memory (ptr+i) = twin (other+i) := by
  obtain ⟨⟨low,high⟩,same⟩ := spot
  have there := bytes (ptr-first.data+i) (by omega)
  rwa [show first.data+(ptr-first.data+i) = ptr+i by omega,show second.data+(ptr-first.data+i) = other+i by omega] at there

theorem Spot.readBytes {size ptr other : Nat} {memory twin : Memory} (spot : Spot first second size ptr other)
    (bytes : SameBytes first second memory twin) : memory.readBytes ptr size = twin.readBytes other size := by
  apply List.map_congr_left
  intro i member
  exact spot.byte bytes (List.mem_range.mp member)

theorem Spot.load [Word α] {ptr other : Nat} {memory twin : Memory} (spot : Spot first second (Word.width α) ptr other)
    (bytes : SameBytes first second memory twin) : memory.load α ptr = twin.load α other := by
  rw [Memory.load,Memory.read,spot.readBytes bytes,Memory.load,Memory.read]

theorem Spot.loads [Word α] {ptr other count : Nat} {memory twin : Memory} (spot : Spot first second (count*Word.width α) ptr other)
    (bytes : SameBytes first second memory twin) : memory.loads α ptr count = twin.loads α other count := by
  apply List.map_congr_left
  intro i member
  have inside := List.mem_range.mp member
  have fits : i*Word.width α+Word.width α ≤ count*Word.width α := by
    rw [← Nat.succ_mul]
    exact Nat.mul_le_mul_right _ inside
  exact (spot.part fits).load bytes

theorem Spot.write {ptr other : Nat} {written : List UInt8} {memory twin : Memory} (spot : Spot first second written.length ptr other)
    (bytes : SameBytes first second memory twin) :
    SameBytes first second (memory.writeBytes ptr written) (twin.writeBytes other written) := by
  intro i inside
  obtain ⟨⟨low,high⟩,same⟩ := spot
  by_cases within : ptr ≤ first.data+i
  · simp only [Memory.writeBytes]
    rw [if_pos within,if_pos (show other ≤ second.data+i by omega),bytes i inside,
      show first.data+i-ptr = second.data+i-other by omega]
  · rw [Memory.writeBytes_outside (by omega),Memory.writeBytes_outside (by omega)]
    exact bytes i inside

theorem sameBytes_kept (twins : Twins first second) {memory other after later : Memory} (bytes : SameBytes first second memory other)
    (left : ∀ x, first.Holds x → after x = memory x) (right : ∀ x, second.Holds x → later x = other x) :
    SameBytes first second after later := by
  intro i inside
  have inside' : i < second.dataSize := twins.dataSize ▸ inside
  rw [left _ (.inl ⟨Nat.le_add_right ..,by simp only; omega⟩),right _ (.inl ⟨Nat.le_add_right ..,by simp only; omega⟩)]
  exact bytes i inside

theorem alike_stops {values : α → β → Prop} : Alike (Copy known first second) (overflows : Io α) (overflows : Io β) values := by
  rintro s t ⟨io,bytes⟩
  refine ⟨⟨⟨?_,?_,io.bufferCur,io.bufferLeft,io.offsetsCur,io.whole,io.offsetsLeft,io.initialized,rfl⟩,bytes⟩,.none⟩
  · exact { io.left with }
  · exact { io.right with }

theorem alike_touch (address other width : Nat) : Alike (Copy known first second) (touch address width) (touch other width) fun _ _ => True :=
  Alike.update fun _ _ related => ⟨related.io,related.bytes⟩

theorem alike_put {ptr other : Nat} {written : List UInt8} (spot : Spot first second written.length ptr other) :
    Alike (Copy known first second) (put ptr written) (put other written) fun _ _ => True := by
  apply (alike_touch ptr other _).bind
  intro _ _ _
  exact Alike.update fun _ _ related => ⟨related.io,fun sure => spot.write (related.bytes sure)⟩

theorem alike_store [Word α] {ptr other : Nat} (spot : Spot first second (Word.width α) ptr other) (value : α) :
    Alike (Copy known first second) (store ptr value) (store other value) fun _ _ => True := by
  apply alike_put
  rwa [Word.bytes_length]

theorem alike_load (α : Type) [Word α] {ptr other : Nat} (spot : Spot first second (Word.width α) ptr other) :
    Alike (Copy True first second) (load α ptr) (load α other) Eq := by
  apply (alike_touch ptr other _).bind
  intro _ _ _
  exact Alike.observe fun _ _ related => spot.load (related.bytes trivial)

theorem copy_advance {s t : State} (related : Copy known first second s t) {size : Nat} (fits : size ≤ s.io.bufferLeft) :
    Copy known first second (advance size s).2 (advance size t).2 ∧ Spot first second size s.io.bufferCur t.io.bufferCur := by
  obtain ⟨io,bytes⟩ := related
  have left := io.left
  have right := io.right
  have same := io.bufferCur
  have count := io.bufferLeft
  have base := left.base
  have start := left.start
  have stop := left.stop
  have start' := right.start
  have stop' := right.stop
  refine ⟨⟨⟨⟨base,?_,?_,left.offsetsBase,left.offsetsStart,left.offsetsStop⟩,⟨right.base,?_,?_,right.offsetsBase,right.offsetsStart,
    right.offsetsStop⟩,?_,?_,io.offsetsCur,io.whole,io.offsetsLeft,io.initialized,io.overflow⟩,bytes⟩,⟨?_,?_⟩,same⟩
  · simp only [advance]
    omega
  · simp only [advance]
    omega
  · simp only [advance]
    omega
  · simp only [advance]
    omega
  · simp only [advance]
    omega
  · simp only [advance]
    omega
  · omega
  · omega

theorem alike_take {size : Nat} {refuse : Io Nat} (refused : Alike (Copy known first second) refuse refuse (Spot first second size)) :
    Alike (Copy known first second) (do
      let io ← observe State.io
      if ¬ ipcIoAvailable io then overflows
      else if io.bufferLeft < size then refuse
      else advance size) (do
      let io ← observe State.io
      if ¬ ipcIoAvailable io then overflows
      else if io.bufferLeft < size then refuse
      else advance size) (Spot first second size) := by
  intro s t related
  have available : ipcIoAvailable s.io = ipcIoAvailable t.io := by
    rw [ipcIoAvailable,ipcIoAvailable,related.io.initialized.1,related.io.initialized.2,related.io.overflow]
  simp only [bind,observe]
  rw [available,related.io.bufferLeft]
  split
  · exact alike_stops s t related
  split
  · exact refused s t related
  · rename_i fits
    rw [← related.io.bufferLeft] at fits
    obtain ⟨reached,spot⟩ := copy_advance related (Nat.le_of_not_lt fits)
    exact ⟨reached,.some spot⟩

theorem alike_ioPush (size : Nat) : Alike (Copy known first second) (ioPush size) (ioPush size) (Spot first second (ioAlign size)) :=
  alike_take alike_stops

theorem alike_ioPushUnaligned (size : Nat) :
    Alike (Copy known first second) (ioPushUnaligned size) (ioPushUnaligned size) (Spot first second size) := alike_take alike_stops

theorem alike_resetLeft : Alike (Copy known first second) (do
      update fun s => { s with io := { s.io with bufferLeft := 0 } }
      overflows : Io α) (do
      update fun s => { s with io := { s.io with bufferLeft := 0 } }
      overflows : Io β) fun _ _ => False := by
  have reset : Alike (Copy known first second) (update fun s => { s with io := { s.io with bufferLeft := 0 } })
      (update fun s => { s with io := { s.io with bufferLeft := 0 } }) fun _ _ => True := by
    apply Alike.update
    rintro s t ⟨io,bytes⟩
    have left := io.left
    have right := io.right
    have stop := left.stop
    have stop' := right.stop
    refine ⟨⟨⟨left.base,left.start,?_,left.offsetsBase,left.offsetsStart,left.offsetsStop⟩,⟨right.base,right.start,?_,right.offsetsBase,
      right.offsetsStart,right.offsetsStop⟩,io.bufferCur,rfl,io.offsetsCur,io.whole,io.offsetsLeft,io.initialized,io.overflow⟩,bytes⟩
    · simp only
      omega
    · simp only
      omega
  exact reset.bind fun _ _ _ => alike_stops

theorem alike_ioPop (size : Nat) : Alike (Copy known first second) (ioPop size) (ioPop size) (Spot first second (ioAlign size)) :=
  alike_take (alike_resetLeft.mono fun _ _ never => never.elim)

theorem alike_ioPopUnaligned (size : Nat) :
    Alike (Copy known first second) (ioPopUnaligned size) (ioPopUnaligned size) (Spot first second size) :=
  alike_take (alike_resetLeft.mono fun _ _ never => never.elim)

theorem alike_secured {outcome : Secure} {ptr other destMax : Nat} {written : List UInt8} (spot : Spot first second destMax ptr other)
    (fits : written.length ≤ destMax) :
    Alike (Copy known first second) (secured outcome ptr destMax written) (secured outcome other destMax written) fun _ _ => True := by
  cases outcome with
  | done => exact alike_put (spot.front fits)
  | refused => exact alike_stops
  | cleared =>
    have cleared : Spot first second (List.replicate destMax (0 : UInt8)).length ptr other := by rwa [List.length_replicate]
    exact (alike_put cleared).bind fun _ _ _ => alike_stops

variable {platform : Platform}

theorem alike_memcpyS {ptr other destMax : Nat} {source : List UInt8} (spot : Spot first second destMax ptr other)
    (fits : source.length ≤ destMax) :
    Alike (Copy known first second) (memcpyS platform ptr destMax source) (memcpyS platform other destMax source) fun _ _ => True :=
  alike_secured spot fits

theorem alike_memsetS {ptr other destMax count : Nat} (spot : Spot first second destMax ptr other) (fits : count ≤ destMax) :
    Alike (Copy known first second) (memsetS platform ptr destMax count) (memsetS platform other destMax count) fun _ _ => True := by
  apply alike_secured spot
  rwa [List.length_replicate]

theorem alike_writeWord [Word α] (value : α) :
    Alike (Copy known first second) (writeWord value) (writeWord value) fun _ _ => True := by
  apply (alike_ioPush _).bind
  intro ptr other spot
  have width := width_lt α
  exact alike_store (spot.front (le_ioAlign (by omega))) value

theorem alike_writeWordUnaligned [Word α] (value : α) :
    Alike (Copy known first second) (writeWordUnaligned value) (writeWordUnaligned value) fun _ _ => True :=
  (alike_ioPushUnaligned _).bind fun _ _ spot => alike_store spot value

theorem alike_readWord (α : Type) [Word α] : Alike (Copy True first second) (readWord α) (readWord α) Eq := by
  apply (alike_ioPop _).bind
  intro ptr other spot
  have width := width_lt α
  exact alike_load α (spot.front (le_ioAlign (by omega)))

theorem alike_readWordUnaligned (α : Type) [Word α] :
    Alike (Copy True first second) (readWordUnaligned α) (readWordUnaligned α) Eq :=
  (alike_ioPopUnaligned _).bind fun _ _ spot => alike_load α spot

theorem alike_writeString (value : List UInt8) :
    Alike (Copy known first second) (writeString platform value) (writeString platform value) fun _ _ => True := by
  unfold writeString
  dsimp only
  split
  · exact alike_stops
  · rename_i short
    have whole : min (cString value).length maxIoSize = (cString value).length := by omega
    have small : (cString value).length < 2^62 := by
      unfold maxIoSize at short whole
      omega
    rw [whole]
    refine (alike_writeWord _).bind fun _ _ _ => ?_
    apply (alike_ioPush _).bind
    intro ptr other spot
    refine (alike_memsetS spot le_rfl).bind fun _ _ _ => alike_memcpyS spot ?_
    rw [List.length_append,List.length_singleton]
    exact le_ioAlign (by omega)

theorem alike_length {rest : UInt32 → Io α} {values : α → α → Prop}
    (each : ∀ len, Alike (Copy True first second) (rest len) (rest len) values) :
    Alike (Copy True first second) (readUint32 >>= rest) (readUint32 >>= rest) values := by
  apply (alike_readWord UInt32).bind
  rintro len _ rfl
  exact each len

theorem alike_readString : Alike (Copy True first second) readString readString (Block first second 1) := by
  apply alike_length
  intro value
  split
  · exact .fail
  · rename_i limited
    unfold maxIoSize at limited
    apply (alike_ioPop _).bind
    intro ptr other spot
    have fits := le_ioAlign (show value.toNat+1 < 2^63 by omega)
    exact .pure ⟨rfl,spot.front (by omega)⟩

theorem alike_writeBufferAddTerminator (value : List UInt8) (size sizeType : Nat) :
    Alike (Copy known first second) (writeBufferAddTerminator platform value size sizeType)
      (writeBufferAddTerminator platform value size sizeType) fun _ _ => True := by
  unfold writeBufferAddTerminator
  split
  · exact .fail
  split
  · exact alike_stops
  · rename_i typed limited
    unfold maxIoSize at limited
    have fits := le_ioAlign (show size < 2^63 by omega)
    have aligned := ioAlign_ioAlign (show size < 2^62 by omega)
    dsimp only
    apply (alike_ioPush _).bind
    intro ptr other spot
    rw [aligned] at spot
    refine (alike_memcpyS spot ?_).bind fun _ _ _ => alike_memsetS (spot.part (by omega)) le_rfl
    rw [List.length_take]
    omega

theorem alike_writeString16 (value : List UInt16) :
    Alike (Copy known first second) (writeString16 platform value) (writeString16 platform value) fun _ _ => True := by
  unfold writeString16
  split
  · exact .fail
  dsimp only
  split
  · exact alike_stops
  · exact (alike_writeWord _).bind fun _ _ _ => alike_writeBufferAddTerminator _ _ _

theorem alike_writeInterfaceToken (name : List UInt16) :
    Alike (Copy known first second) (writeInterfaceToken platform name) (writeInterfaceToken platform name) fun _ _ => True := by
  unfold writeInterfaceToken
  split
  · exact .fail
  split
  · exact alike_stops
  · exact alike_writeString16 name

theorem alike_readString16 : Alike (Copy True first second) readString16 readString16 (Block first second 2) := by
  apply alike_length
  intro len
  split
  · exact .fail
  · rename_i limited
    unfold maxIoSize at limited
    apply (alike_ioPop _).bind
    intro ptr other spot
    have fits := le_ioAlign (show (len.toNat+1)*2 < 2^63 by omega)
    have last : Spot first second (Word.width UInt16) (ptr+len.toNat*2) (other+len.toNat*2) :=
      spot.part (by simp only [Word.width]; omega)
    apply (alike_load UInt16 last).bind
    rintro value _ rfl
    split
    · exact .pure ⟨rfl,spot.front (by omega)⟩
    · exact .fail

theorem alike_writeBuffer (data : List UInt8) :
    Alike (Copy known first second) (writeBuffer platform data) (writeBuffer platform data) fun _ _ => True := by
  unfold writeBuffer
  split
  · exact .fail
  split
  · exact alike_stops
  · rename_i limited
    unfold maxIoSize at limited
    have fits := le_ioAlign (show data.length < 2^63 by omega)
    have aligned := ioAlign_ioAlign (show data.length < 2^62 by omega)
    dsimp only
    apply (alike_ioPush _).bind
    intro ptr other spot
    rw [aligned] at spot
    exact (alike_memcpyS spot fits).bind fun _ _ _ => alike_memsetS (spot.part (by omega)) le_rfl

theorem alike_readBuffer {size : UInt64} (sized : size.toNat < 2^63) :
    Alike (Copy True first second) (readBuffer size) (readBuffer size) (Block first second 1) := by
  unfold readBuffer
  split
  · exact .fail
  · apply (alike_ioPop _).bind
    intro ptr other spot
    have fits := le_ioAlign sized
    exact .pure ⟨rfl,spot.front (by omega)⟩

theorem alike_writeRawData (data : List UInt8) :
    Alike (Copy known first second) (writeRawData platform data) (writeRawData platform data) fun _ _ => True := by
  unfold writeRawData
  split
  · exact .fail
  split
  · exact alike_stops
  · exact (alike_writeWord _).bind fun _ _ _ => alike_writeBuffer data

theorem alike_readRawData (size : UInt64) :
    Alike (Copy True first second) (readRawData size) (readRawData size) (Block first second 1) := by
  unfold readRawData
  split
  · exact .fail
  · apply (alike_readWord UInt32).attempt.bind
    intro len twin same
    have equal : len = twin := by
      cases same with
      | none => rfl
      | some same => rw [same]
    subst equal
    split
    · exact .fail
    · have bound := (len.getD 0).toNat_lt
      apply alike_readBuffer
      rw [UInt32.toNat_toUInt64]
      omega

theorem alike_writeVector [Word α] (val : List α) :
    Alike (Copy known first second) (writeVector platform val) (writeVector platform val) fun _ _ => True := by
  unfold writeVector
  split
  · exact .fail
  · refine (alike_writeWord _).bind fun _ _ _ => ?_
    dsimp only
    apply (alike_ioPushUnaligned _).bind
    intro ptr other spot
    apply alike_memcpyS spot
    rw [List.length_take]
    omega

theorem alike_writeEach {write : α → Io Unit}
    (each : ∀ item, Alike (Copy known first second) (write item) (write item) fun _ _ => True) (val : List α) :
    Alike (Copy known first second) (writeEach write val) (writeEach write val) fun _ _ => True := by
  unfold writeEach
  split
  · exact .fail
  · refine (alike_writeWord _).bind fun _ _ _ => ?_
    have looped := Alike.forEach (fun item => (each item).mono fun _ _ _ => Subsingleton.elim _ _) val
    exact looped.bind fun _ _ _ => .pure trivial

theorem alike_readVector (width : Nat) (limit : Option Nat) :
    Alike (Copy True first second) (readVector width limit) (readVector width limit) (Block first second width) := by
  apply alike_length
  intro size
  split
  · exact .fail
  · exact (alike_ioPopUnaligned _).bind fun _ _ spot => .pure ⟨rfl,spot⟩

theorem alike_readEach (limit width : Nat) (convert : Int32 → β) :
    Alike (Copy True first second) (readEach platform limit width convert) (readEach platform limit width convert) Eq := by
  apply alike_length
  intro size
  split
  · exact .fail
  split
  · exact .fail
  · apply Alike.forEach
    intro _
    apply (alike_readWord Int32).bind
    rintro value _ rfl
    exact .pure rfl

theorem alike_elements [Word α] {read : Io (Nat × Nat)}
    (alike : Alike (Copy True first second) read read (Block first second (Word.width α))) :
    Alike (Copy True first second) (elements α read) (elements α read) Eq := by
  apply alike.bind
  intro block other same
  apply Alike.observe
  intro s t related
  rw [← same.1]
  exact same.2.loads (related.bytes trivial)

/-! Objects. -/

/-- A turn of the cursors over one entry of the tables. -/
theorem aligned_takeOffset {io other before after : IpcIo} (seen : Aligned first second before after) (more : before.offsetsLeft ≠ 0)
    (now : Aligned first second io other) :
    Aligned first second { io with offsetsCur := before.offsetsCur+sizeSize, offsetsLeft := before.offsetsLeft-1 }
      { other with offsetsCur := after.offsetsCur+sizeSize, offsetsLeft := after.offsetsLeft-1 } := by
  have count := seen.offsetsLeft
  have place := seen.offsetsCur
  have base := now.left.offsetsBase
  have base' := now.right.offsetsBase
  have first_ := seen.left.offsetsBase
  have second_ := seen.right.offsetsBase
  have start := seen.left.offsetsStart
  have start' := seen.right.offsetsStart
  have stop := seen.left.offsetsStop
  have stop' := seen.right.offsetsStop
  simp only [sizeSize] at stop stop'
  refine ⟨⟨now.left.base,now.left.start,now.left.stop,base,?_,?_⟩,⟨now.right.base,now.right.start,now.right.stop,base',?_,?_⟩,now.bufferCur,
    now.bufferLeft,?_,?_,?_,now.initialized,now.overflow⟩
  · simp only
    omega
  · simp only [sizeSize]
    omega
  · simp only
    omega
  · simp only [sizeSize]
    omega
  · simp only
    omega
  · simp only
    rw [Nat.sub_add_comm (by omega)]
    exact Nat.dvd_add seen.whole (dvd_refl _)
  · simp only
    rw [count]

theorem alike_recordOffset (twins : Twins first second) {before after : IpcIo} (seen : Aligned first second before after) (more : before.offsetsLeft ≠ 0) (offset : UInt64) :
    Alike (Copy known first second) (store before.offsetsCur offset) (store after.offsetsCur offset) fun _ _ => True := by
  apply (alike_touch _ _ _).bind
  intro _ _ _
  apply Alike.update
  rintro s t ⟨io,bytes⟩
  have width : (Word.bytes offset).length = 8 := Word.bytes_length offset
  have outside : ∀ {region : Region} {io : IpcIo}, Cursors region io → io.offsetsLeft ≠ 0 → ∀ {memory : Memory} {i : Nat}, i < region.dataSize →
      memory.writeBytes io.offsetsCur (Word.bytes offset) (region.data+i) = memory (region.data+i) := by
    intro region io cursors more memory i inside
    have base := cursors.offsetsBase
    have start := cursors.offsetsStart
    have stop := cursors.offsetsStop
    simp only [sizeSize] at stop
    apply Memory.writeBytes_outside
    rw [width]
    rcases region.apart with before | behind
    · exact .inl (by omega)
    · simp only [sizeSize] at behind
      exact .inr (by omega)
  refine ⟨io,?_⟩
  intro sure i inside
  have inside' : i < second.dataSize := twins.dataSize ▸ inside
  dsimp only
  rw [outside seen.left more inside,outside seen.right (seen.offsetsLeft ▸ more) inside']
  exact bytes sure i inside

theorem Aligned.tables {io other : IpcIo} (aligned : Aligned first second io other) (twins : Twins first second) :
    io.offsetsCur ≠ 0 ∧ other.offsetsCur ≠ 0 := by
  have base := aligned.left.offsetsBase
  have base' := aligned.right.offsetsBase
  have start := aligned.left.offsetsStart
  have start' := aligned.right.offsetsStart
  have table := twins.table
  have table' := twins.table'
  exact ⟨by omega,by omega⟩

theorem alike_ioPushBinderObj (twins : Twins first second) :
    Alike (Copy known first second) ioPushBinderObj ioPushBinderObj (Spot first second flatBinderObjectSize) := by
  have seen : Alike (Copy known first second) (observe State.io) (observe State.io) (Aligned first second) :=
    Alike.observe fun _ _ related => related.io
  apply seen.bind
  intro io other aligned
  obtain ⟨table,table'⟩ := aligned.tables twins
  rw [if_neg table,if_neg table']
  apply (alike_ioPush flatBinderObjectSize).attempt.bind
  intro pushed twin same
  cases same with
  | none => exact alike_stops
  | @some ptr place spot =>
    dsimp only
    rw [← aligned.offsetsLeft]
    split
    · exact alike_stops
    · rename_i more
      have offset : ptr-io.bufferBase = place-other.bufferBase := by
        have low := spot.1.1
        have equal := spot.2
        have data := aligned.left.base
        have data' := aligned.right.base
        omega
      rw [offset]
      refine (alike_recordOffset twins aligned more _).bind fun _ _ _ => ?_
      refine (Alike.update ?_).bind fun _ _ _ => .pure spot
      rintro s t ⟨now,bytes⟩
      have turned := aligned_takeOffset aligned more now
      rw [← aligned.offsetsLeft] at turned
      exact ⟨turned,bytes⟩

/-! The fields of a flat object. -/

theorem alike_storeType {ptr other : Nat} (type : UInt32) (spot : Spot first second flatBinderObjectSize ptr other) :
    Alike (Copy known first second) (store ptr type) (store other type) fun _ _ => True :=
  alike_store (spot.front (show 4 ≤ flatBinderObjectSize by decide)) type

theorem alike_storeField [Word α] {ptr other offset : Nat} (value : α) (spot : Spot first second flatBinderObjectSize ptr other)
    (fits : offset+Word.width α ≤ flatBinderObjectSize) :
    Alike (Copy known first second) (store (ptr+offset) value) (store (other+offset) value) fun _ _ => True := alike_store (spot.part fits) value

theorem alike_loadType {ptr other : Nat} (spot : Spot first second flatBinderObjectSize ptr other) :
    Alike (Copy True first second) (load UInt32 ptr) (load UInt32 other) Eq := alike_load UInt32 (spot.front (show 4 ≤ flatBinderObjectSize by decide))

theorem alike_loadField (α : Type) [Word α] {ptr other offset : Nat} (spot : Spot first second flatBinderObjectSize ptr other)
    (fits : offset+Word.width α ≤ flatBinderObjectSize) :
    Alike (Copy True first second) (load α (ptr+offset)) (load α (other+offset)) Eq := alike_load α (spot.part fits)

theorem alike_ipcIoPushObject (twins : Twins first second) (cookie : UInt64) :
    Alike (Copy known first second) (ipcIoPushObject cookie) (ipcIoPushObject cookie) fun _ _ => True := by
  apply (alike_ioPushBinderObj twins).bind
  intro ptr other spot
  refine (alike_storeField _ spot (by decide)).bind fun _ _ _ => ?_
  refine (alike_storeType _ spot).bind fun _ _ _ => ?_
  exact (alike_storeField _ spot (by decide)).bind fun _ _ _ => alike_storeField _ spot (by decide)

theorem alike_ipcIoPushRef (twins : Twins first second) (handle : UInt32) (cookie : UInt64) :
    Alike (Copy known first second) (ipcIoPushRef handle cookie) (ipcIoPushRef handle cookie) fun _ _ => True := by
  apply (alike_ioPushBinderObj twins).bind
  intro ptr other spot
  refine (alike_storeField _ spot (by decide)).bind fun _ _ _ => ?_
  refine (alike_storeType _ spot).bind fun _ _ _ => ?_
  exact (alike_storeField _ spot (by decide)).bind fun _ _ _ => alike_storeField _ spot (by decide)

theorem alike_writeRemoteObject (twins : Twins first second) (svc : SvcIdentity) :
    Alike (Copy known first second) (writeRemoteObject svc) (writeRemoteObject svc) fun _ _ => True := by
  unfold writeRemoteObject
  split
  · exact alike_ipcIoPushObject twins _
  · exact alike_ipcIoPushRef twins _ _

theorem alike_writeFileDescriptor (twins : Twins first second) (fd : UInt32) :
    Alike (Copy known first second) (writeFileDescriptor fd) (writeFileDescriptor fd) fun _ _ => True := by
  apply (alike_ioPushBinderObj twins).bind
  intro ptr other spot
  refine (alike_storeField _ spot (by decide)).bind fun _ _ _ => ?_
  refine (alike_storeType _ spot).bind fun _ _ _ => ?_
  refine (alike_storeField _ spot (by decide)).bind fun _ _ _ => ?_
  exact (alike_storeField _ spot (by decide)).bind fun _ _ _ => alike_storeField _ spot (by decide)

theorem alike_ipcIoPopRef (twins : Twins first second) :
    Alike (Copy known first second) ipcIoPopRef ipcIoPopRef (Spot first second flatBinderObjectSize) := by
  have seen : Alike (Copy known first second) (observe State.io) (observe State.io) (Aligned first second) :=
    Alike.observe fun _ _ related => related.io
  apply seen.bind
  intro io other aligned
  obtain ⟨table,table'⟩ := aligned.tables twins
  rw [if_neg table,if_neg table',← aligned.offsetsLeft]
  split
  · exact alike_stops
  · rename_i more
    apply (alike_ioPop flatBinderObjectSize).bind
    intro obj place spot
    refine (Alike.update ?_).bind fun _ _ _ => .pure spot
    rintro s t ⟨now,bytes⟩
    have turned := aligned_takeOffset aligned more now
    rw [← aligned.offsetsLeft] at turned
    exact ⟨turned,bytes⟩

theorem alike_readRemoteObject (twins : Twins first second) (svc : SvcIdentity) :
    Alike (Copy True first second) (readRemoteObject svc) (readRemoteObject svc) Eq := by
  apply (alike_ipcIoPopRef twins).bind
  intro obj other spot
  apply (alike_loadType spot).bind
  rintro type _ rfl
  split
  · apply (alike_loadField UInt64 spot (by decide)).bind
    rintro token _ rfl
    apply (alike_loadField UInt64 spot (by decide)).bind
    rintro cookie _ rfl
    exact .pure rfl
  · apply (alike_loadField Int32 spot (by decide)).bind
    rintro handle _ rfl
    apply (alike_loadField UInt64 spot (by decide)).bind
    rintro cookie _ rfl
    exact .pure rfl

theorem alike_readFileDescriptor (twins : Twins first second) :
    Alike (Copy True first second) readFileDescriptor readFileDescriptor Eq := by
  apply (alike_ipcIoPopRef twins).bind
  intro obj other spot
  apply (alike_loadType spot).bind
  rintro type _ rfl
  split
  · exact alike_loadField Int32 spot (by decide)
  · exact .fail

/-! Every call. -/

theorem alike_write (item : Item) : Alike (Copy known first second) (item.write platform) (item.write platform) fun _ _ => True := by
  cases item with
  | bool _ | int8 _ | uint8 _ | int16 _ | uint16 _ | int32 _ | uint32 _ | int64 _ | uint64 _ | float _ | double _ | pointer _ =>
    exact alike_writeWord _
  | boolUnaligned _ | int8Unaligned _ | uint8Unaligned _ | int16Unaligned _ | uint16Unaligned _ => exact alike_writeWordUnaligned _
  | string value => exact alike_writeString value
  | string16 value => exact alike_writeString16 value
  | interfaceToken name => exact alike_writeInterfaceToken name
  | buffer data => exact alike_writeBuffer data
  | rawData data => exact alike_writeRawData data
  | boolVector val => exact alike_writeEach (fun _ => alike_writeWord _) val
  | int16Vector val => exact alike_writeEach (fun _ => alike_writeWord _) val
  | int8Vector val | int32Vector val | int64Vector val | uint8Vector val | uint16Vector val | uint32Vector val | uint64Vector val
  | floatVector val | doubleVector val => exact alike_writeVector val

theorem alike_map {program twin : Io α} (alike : Alike (Copy True first second) program twin Eq) (f : α → β) :
    Alike (Copy True first second) (f <$> program) (f <$> twin) Eq := by
  apply alike.bind
  rintro value _ rfl
  exact .pure rfl

/-- No block is larger than half the address space; `IoPop` would round the largest sizes to 0. -/
theorem alike_read {kind : Kind} (sized : ∀ size, kind = .buffer size → size.toNat < 2^63) :
    Alike (Copy True first second) (kind.read platform) (kind.read platform) Eq := by
  cases kind with
  | bool | int8 | uint8 | int16 | uint16 | int32 | uint32 | int64 | uint64 | float | double | pointer =>
    exact alike_map (alike_readWord _) _
  | boolUnaligned | int8Unaligned | uint8Unaligned | int16Unaligned | uint16Unaligned => exact alike_map (alike_readWordUnaligned _) _
  | string => exact alike_map (alike_elements alike_readString) _
  | string16 | interfaceToken => exact alike_map (alike_elements alike_readString16) _
  | buffer size => exact alike_map (alike_elements (alike_readBuffer (sized size rfl))) _
  | rawData size => exact alike_map (alike_elements (alike_readRawData size)) _
  | boolVector | int16Vector => exact alike_map (alike_readEach _ _ _) _
  | int8Vector | int32Vector | int64Vector | uint8Vector | uint16Vector | uint32Vector | uint64Vector | floatVector
  | doubleVector => exact alike_map (alike_elements (alike_readVector _ _)) _

end Programs

end CommunicationIpc.SerializerCopies
