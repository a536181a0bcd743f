import CommunicationIpc.Kernel.Serializer
import CommunicationIpc.Library.Run
import CommunicationIpc.Package

/-! The cursors of an `IpcIo` stay inside the memory it was set up over, and so does everything
the serializer touches, whatever is called on it. -/
namespace CommunicationIpc.SerializerCursor
open CommunicationIpc.Library CommunicationIpc.Library.Program CommunicationIpc.Kernel.Serializer
open CommunicationIpc.Kernel.Package (wrap64)
open CommunicationIpc.Kernel.Framing.Lite (sizeSize)
open CommunicationIpc.Kernel.Translate (flatBinderObjectSize)
open CommunicationIpc.Package (wrap64_of_lt)

/-- The data area and the offsets table behind an `IpcIo`. A C object is smaller than half the address space. -/
structure Region where
  data : Nat
  dataSize : Nat
  table : Nat
  tableCount : Nat
  apart : data+dataSize ≤ table ∨ table+tableCount*sizeSize ≤ data
  small : dataSize < 2^63

namespace Region

/-- `size` bytes of the data area from `ptr` on. -/
def Room (region : Region) (ptr size : Nat) : Prop :=
  region.data ≤ ptr ∧ ptr+size ≤ region.data+region.dataSize

def Inside (region : Region) (access : Nat × Nat) : Prop :=
  region.Room access.1 access.2 ∨
    (region.table ≤ access.1 ∧ access.1+access.2 ≤ region.table+region.tableCount*sizeSize)

def Holds (region : Region) (address : Nat) : Prop := region.Inside (address,1)

theorem Room.part {region : Region} {ptr size offset width : Nat} (room : region.Room ptr size) (fits : offset+width ≤ size) :
    region.Room (ptr+offset) width := by
  obtain ⟨low,high⟩ := room
  exact ⟨by omega,by omega⟩

theorem Room.front {region : Region} {ptr size width : Nat} (room : region.Room ptr size) (fits : width ≤ size) :
    region.Room ptr width := by
  obtain ⟨low,high⟩ := room
  exact ⟨low,by omega⟩

theorem Inside.holds {region : Region} {address width x : Nat} (inside : region.Inside (address,width)) (low : address ≤ x)
    (high : x < address+width) : region.Holds x := by
  rcases inside with ⟨start,stop⟩ | ⟨start,stop⟩
  · exact .inl ⟨by simp only at start ⊢; omega,by simp only at stop ⊢; omega⟩
  · exact .inr ⟨by simp only at start ⊢; omega,by simp only at stop ⊢; omega⟩

end Region

/-- The pointers of an `IpcIo` stand in order inside its region. -/
structure Cursors (region : Region) (io : IpcIo) : Prop where
  base : io.bufferBase = region.data
  start : io.bufferBase ≤ io.bufferCur
  stop : io.bufferCur+io.bufferLeft ≤ region.data+region.dataSize
  offsetsBase : io.offsetsBase = region.table
  offsetsStart : io.offsetsBase ≤ io.offsetsCur
  offsetsStop : io.offsetsCur+io.offsetsLeft*sizeSize ≤ region.table+region.tableCount*sizeSize

/-- The ranges touched lie in the region or in `extra`, and nothing outside the region is written. -/
def effect (region : Region) (extra : Nat × Nat → Prop) : Effect State where
  rel := fun s t =>
    (∃ more, t.accesses = s.accesses ++ more ∧ ∀ access ∈ more, region.Inside access ∨ extra access) ∧
      ∀ x, ¬ region.Holds x → t.memory x = s.memory x
  refl := fun s => ⟨⟨[],by rw [List.append_nil],fun _ absent => absurd absent List.not_mem_nil⟩,fun _ _ => rfl⟩
  trans := by
    rintro s t u ⟨⟨first,touched,inside⟩,kept⟩ ⟨⟨second,later,alike⟩,left⟩
    refine ⟨⟨first ++ second,by rw [later,touched,List.append_assoc],?_⟩,fun x outside => (left x outside).trans (kept x outside)⟩
    intro access member
    rcases List.mem_append.mp member with old | new
    · exact inside access old
    · exact alike access new

/-- The cursors, and what is known of `offsetsCur` and `offsetsLeft`. -/
def Steady (region : Region) (keep : Nat → Nat → Prop) (s : State) : Prop :=
  Cursors region s.io ∧ keep s.io.offsetsCur s.io.offsetsLeft

def Safe {α : Type} (region : Region) (extra : Nat × Nat → Prop) (keep : Nat → Nat → Prop) (program : Io α)
    (post : α → Prop) : Prop :=
  Meets (effect region extra) (fun s => Cursors region s.io) (Steady region keep) program
    fun value s => post value ∧ Steady region keep s

/-- Nothing is known of the offsets, or of a result. -/
def any : Nat → Nat → Prop := fun _ _ => True
def ended {α : Type} : α → Prop := fun _ => True

section Safe
variable {α β : Type} {region : Region} {extra : Nat × Nat → Prop} {keep : Nat → Nat → Prop} {post : α → Prop} {last : β → Prop}

theorem Safe.bind {first : Io α} {rest : α → Io β} (begins : Safe region extra keep first post)
    (goesOn : ∀ value, post value → Safe region extra keep (rest value) last) : Safe region extra keep (first >>= rest) last :=
  Meets.bind begins fun value s held => goesOn value held.1 s held.2

theorem Safe.mono {program : Io α} {wider : α → Prop} (safe : Safe region extra keep program post)
    (weaker : ∀ value, post value → wider value) : Safe region extra keep program wider :=
  Meets.mono safe fun value _ held => ⟨weaker value held.1,held.2⟩

theorem Safe.pure {value : α} (holds : post value) : Safe region extra keep (Pure.pure value : Io α) post :=
  Meets.pure fun _ held => ⟨holds,held⟩

theorem Safe.fail : Safe region extra keep (Program.fail : Io α) post :=
  Meets.fail fun _ held => held.1

theorem Safe.observe (view : State → α) : Safe region extra keep (Program.observe view) fun _ => True :=
  Meets.observe fun _ held => ⟨trivial,held⟩

theorem Safe.cursors {program : Io α} (safe : Safe region extra any program post) {s : State} (cursors : Cursors region s.io) :
    Cursors region (program s).2.io := by
  obtain ⟨-,failed,done⟩ := safe s ⟨cursors,trivial⟩
  cases ran : (program s).1 with
  | none => exact failed ran
  | some value => exact (done value ran).2.1

theorem safe_touch {address width : Nat} (allowed : region.Inside (address,width) ∨ extra (address,width)) :
    Safe region extra keep (touch address width) ended := by
  apply Meets.update
  · intro s _
    refine ⟨⟨[(address,width)],rfl,?_⟩,fun _ _ => rfl⟩
    intro access member
    rw [List.mem_singleton] at member
    subst member
    exact allowed
  · intro s held
    exact ⟨trivial,held⟩

theorem safe_put {address : Nat} {bytes : List UInt8} (inside : region.Inside (address,bytes.length)) :
    Safe region extra keep (put address bytes) ended := by
  apply (safe_touch (.inl inside)).bind
  intro _ _
  apply Meets.update
  · intro s _
    refine ⟨(effect region extra).refl s |>.1,?_⟩
    intro x outside
    apply Memory.writeBytes_outside
    by_contra within
    exact outside (inside.holds (by omega) (by omega))
  · intro s held
    exact ⟨trivial,held⟩

theorem safe_store [Word α] {address : Nat} {value : α} (inside : region.Inside (address,Word.width α)) :
    Safe region extra keep (store address value) ended := by
  apply safe_put
  rwa [Word.bytes_length]

theorem safe_load (α : Type) [Word α] {address : Nat} (allowed : region.Inside (address,Word.width α) ∨ extra (address,Word.width α)) :
    Safe region extra keep (load α address) fun _ => True :=
  (safe_touch allowed).bind fun _ _ => .observe _

theorem safe_overflows : Safe region extra keep (overflows : Io α) post := by
  have flagged : Safe region extra keep setOverflow ended := by
    apply Meets.update
    · intro s _
      exact (effect region extra).refl s
    · rintro s ⟨held,kept⟩
      exact ⟨trivial,⟨held.base,held.start,held.stop,held.offsetsBase,held.offsetsStart,held.offsetsStop⟩,kept⟩
  exact flagged.bind fun _ _ => .fail

theorem safe_resetLeft :
    Safe region extra keep (update fun s => { s with io := { s.io with bufferLeft := 0 } }) ended := by
  apply Meets.update
  · intro s _
    exact (effect region extra).refl s
  · rintro s ⟨held,kept⟩
    have stop := held.stop
    exact ⟨trivial,⟨held.base,held.start,by simp only; omega,held.offsetsBase,held.offsetsStart,held.offsetsStop⟩,kept⟩

theorem meets_advance (size : Nat) :
    Meets (effect region extra) (fun s => Cursors region s.io) (fun s => Steady region keep s ∧ size ≤ s.io.bufferLeft)
      (advance size) fun ptr s => region.Room ptr size ∧ Steady region keep s := by
  rintro s ⟨⟨held,kept⟩,fits⟩
  refine ⟨(effect region extra).refl s,(fun absent => by cases absent),?_⟩
  intro ptr same
  cases same
  have base := held.base
  have start := held.start
  have stop := held.stop
  refine ⟨⟨by omega,by omega⟩,⟨held.base,?_,?_,held.offsetsBase,held.offsetsStart,held.offsetsStop⟩,kept⟩
  · simp only [advance]
    omega
  · simp only [advance]
    omega

/-- Taking `size` bytes where there are so many, and failing in a steady state where there are not. -/
theorem safe_take {size : Nat} {refuse : Io Nat} (refused : Safe region extra keep refuse (region.Room · size)) :
    Safe region extra keep (do
      let io ← observe State.io
      if ¬ ipcIoAvailable io then overflows
      else if io.bufferLeft < size then refuse
      else advance size) (region.Room · size) := by
  have seen : Meets (effect region extra) (fun s => Cursors region s.io) (Steady region keep) (observe State.io)
      fun io s => io = s.io ∧ Steady region keep s := Meets.observe fun s held => ⟨rfl,held⟩
  apply Meets.bind seen
  intro io
  split
  · exact Meets.strengthen safe_overflows fun _ held => held.2
  split
  · exact Meets.strengthen refused fun _ held => held.2
  · rename_i fits
    apply (meets_advance size).strengthen
    rintro s ⟨rfl,held⟩
    exact ⟨held,by omega⟩

theorem safe_ioPush (size : Nat) : Safe region extra keep (ioPush size) (region.Room · (ioAlign size)) :=
  safe_take safe_overflows

theorem safe_ioPushUnaligned (size : Nat) : Safe region extra keep (ioPushUnaligned size) (region.Room · size) :=
  safe_take safe_overflows

theorem safe_ioPop (size : Nat) : Safe region extra keep (ioPop size) (region.Room · (ioAlign size)) :=
  safe_take (safe_resetLeft.bind fun _ _ => safe_overflows)

theorem safe_ioPopUnaligned (size : Nat) : Safe region extra keep (ioPopUnaligned size) (region.Room · size) :=
  safe_take (safe_resetLeft.bind fun _ _ => safe_overflows)

/-- The four cursor functions, when they return a pointer. -/
theorem take_some_iff {size ptr : Nat} {refuse : Io Nat} (refused : ∀ s, (refuse s).1 = none) {s t : State} :
    (do
      let io ← observe State.io
      if ¬ ipcIoAvailable io then overflows
      else if io.bufferLeft < size then refuse
      else advance size : Io Nat) s = (some ptr,t) ↔
      ipcIoAvailable s.io = true ∧ size ≤ s.io.bufferLeft ∧ ptr = s.io.bufferCur ∧ t = (advance size s).2 := by
  have seen : observe State.io s = (some s.io,s) := rfl
  rw [bind_some seen]
  constructor
  · intro done
    split at done
    · cases done
    · rename_i available
      split at done
      · have none_ := refused s
        rw [done] at none_
        cases none_
      · rename_i fits
        cases done
        exact ⟨not_not.mp available,Nat.le_of_not_lt fits,rfl,rfl⟩
  · rintro ⟨available,fits,rfl,rfl⟩
    rw [if_neg (not_not.mpr available),if_neg (Nat.not_lt.mpr fits)]
    rfl

theorem ioAlign_of_small {size : Nat} (small : size < 2^63) : ioAlign size = (size+3)/4*4 := by
  simp only [ioAlign,alignSz]
  rw [wrap64_of_lt (by omega)]
  omega

theorem le_ioAlign {size : Nat} (small : size < 2^63) : size ≤ ioAlign size := by
  rw [ioAlign_of_small small]
  omega

theorem ioAlign_ioAlign {size : Nat} (small : size < 2^62) : ioAlign (ioAlign size) = ioAlign size := by
  have aligned := ioAlign_of_small (show size < 2^63 by omega)
  rw [ioAlign_of_small (show ioAlign size < 2^63 by omega)]
  omega

theorem width_lt (α : Type) [Word α] : Word.width α < 2^62 := by
  have small := Word.width_le (α := α)
  omega

theorem safe_secured {outcome : Secure} {ptr destMax : Nat} {bytes : List UInt8} (room : region.Room ptr destMax)
    (fits : bytes.length ≤ destMax) : Safe region extra keep (secured outcome ptr destMax bytes) ended := by
  cases outcome with
  | done => exact safe_put (.inl (room.front fits))
  | refused => exact safe_overflows
  | cleared =>
    refine (safe_put (.inl ?_)).bind fun _ _ => safe_overflows
    simpa only [List.length_replicate] using room

variable {platform : Platform}

theorem safe_memcpyS {ptr destMax : Nat} {source : List UInt8} (room : region.Room ptr destMax) (fits : source.length ≤ destMax) :
    Safe region extra keep (memcpyS platform ptr destMax source) ended := safe_secured room fits

theorem safe_memsetS {ptr destMax count : Nat} (room : region.Room ptr destMax) (fits : count ≤ destMax) :
    Safe region extra keep (memsetS platform ptr destMax count) ended := by
  apply safe_secured room
  rwa [List.length_replicate]

theorem safe_writeWord [Word α] (value : α) : Safe region extra keep (writeWord value) ended := by
  apply (safe_ioPush _).bind
  intro ptr room
  have width := width_lt α
  exact safe_store (.inl (room.front (le_ioAlign (by omega))))

theorem safe_writeWordUnaligned [Word α] (value : α) : Safe region extra keep (writeWordUnaligned value) ended := by
  apply (safe_ioPushUnaligned _).bind
  intro ptr room
  exact safe_store (.inl room)

theorem safe_readWord (α : Type) [Word α] : Safe region extra keep (readWord α) ended := by
  apply (safe_ioPop _).bind
  intro ptr room
  have width := width_lt α
  exact safe_load α (.inl (.inl (room.front (le_ioAlign (by omega)))))

theorem safe_readWordUnaligned (α : Type) [Word α] : Safe region extra keep (readWordUnaligned α) ended := by
  apply (safe_ioPopUnaligned _).bind
  intro ptr room
  exact safe_load α (.inl (.inl room))

theorem safe_writeString (value : List UInt8) : Safe region extra keep (writeString platform value) ended := by
  unfold writeString
  dsimp only
  split
  · exact safe_overflows
  · rename_i short
    have whole : min (cString value).length maxIoSize = (cString value).length := by omega
    have small : (cString value).length < 2^62 := by
      unfold maxIoSize at short whole
      omega
    rw [whole]
    refine (safe_writeWord _).bind fun _ _ => ?_
    apply (safe_ioPush _).bind
    intro ptr room
    refine (safe_memsetS room le_rfl).bind fun _ _ => safe_memcpyS room ?_
    rw [List.length_append,List.length_singleton]
    exact le_ioAlign (by omega)

theorem safe_readString : Safe region extra keep readString ended := by
  refine (safe_readWord UInt32).bind fun value _ => ?_
  split
  · exact .fail
  · exact (safe_ioPop _).bind fun _ _ => .pure trivial

theorem safe_writeBufferAddTerminator (value : List UInt8) (size sizeType : Nat) :
    Safe region extra keep (writeBufferAddTerminator platform value size sizeType) ended := by
  unfold writeBufferAddTerminator
  split
  · exact .fail
  split
  · exact safe_overflows
  · rename_i typed limited
    unfold maxIoSize at limited
    have fits := le_ioAlign (show size < 2^63 by omega)
    have aligned := ioAlign_ioAlign (show size < 2^62 by omega)
    dsimp only
    apply (safe_ioPush _).bind
    intro ptr room
    rw [aligned] at room
    refine (safe_memcpyS room ?_).bind fun _ _ => safe_memsetS (room.part (by omega)) le_rfl
    rw [List.length_take]
    omega

theorem safe_writeString16 (value : List UInt16) : Safe region extra keep (writeString16 platform value) ended := by
  unfold writeString16
  split
  · exact .fail
  dsimp only
  split
  · exact safe_overflows
  · exact (safe_writeWord _).bind fun _ _ => safe_writeBufferAddTerminator _ _ _

theorem safe_writeInterfaceToken (name : List UInt16) :
    Safe region extra keep (writeInterfaceToken platform name) ended := by
  unfold writeInterfaceToken
  split
  · exact .fail
  split
  · exact safe_overflows
  · exact safe_writeString16 name

theorem safe_readString16 : Safe region extra keep readString16 ended := by
  refine (safe_readWord UInt32).bind fun len _ => ?_
  split
  · exact .fail
  · rename_i limited
    unfold maxIoSize at limited
    apply (safe_ioPop _).bind
    intro ptr room
    have fits := le_ioAlign (show (len.toNat+1)*2 < 2^63 by omega)
    have last : region.Room (ptr+len.toNat*2) (Word.width UInt16) :=
      room.part (by simp only [Word.width]; omega)
    refine (safe_load UInt16 (.inl (.inl last))).bind fun value _ => ?_
    split
    · exact .pure trivial
    · exact .fail

theorem safe_writeBuffer (data : List UInt8) : Safe region extra keep (writeBuffer platform data) ended := by
  unfold writeBuffer
  split
  · exact .fail
  split
  · exact safe_overflows
  · rename_i limited
    unfold maxIoSize at limited
    have fits := le_ioAlign (show data.length < 2^63 by omega)
    have aligned := ioAlign_ioAlign (show data.length < 2^62 by omega)
    dsimp only
    apply (safe_ioPush _).bind
    intro ptr room
    rw [aligned] at room
    exact (safe_memcpyS room fits).bind fun _ _ => safe_memsetS (room.part (by omega)) le_rfl

theorem safe_readBuffer (size : UInt64) : Safe region extra keep (readBuffer size) ended := by
  unfold readBuffer
  split
  · exact .fail
  · exact (safe_ioPop _).bind fun _ _ => .pure trivial

theorem safe_writeRawData (data : List UInt8) : Safe region extra keep (writeRawData platform data) ended := by
  unfold writeRawData
  split
  · exact .fail
  split
  · exact safe_overflows
  · exact (safe_writeWord _).bind fun _ _ => safe_writeBuffer data

/-- What a failed `ReadUint32` leaves is steady too, as nothing is asked of the offsets. -/
theorem safe_readRawData (size : UInt64) : Safe region extra any (readRawData size) ended := by
  unfold readRawData
  split
  · exact .fail
  · have length : Safe region extra any (attempt readUint32) ended :=
      Meets.attempt (safe_readWord UInt32) (fun _ held => ⟨trivial,held,trivial⟩) fun _ _ held => ⟨trivial,held.2⟩
    refine length.bind fun len _ => ?_
    split
    · exact .fail
    · exact safe_readBuffer _

theorem safe_writeVector [Word α] (val : List α) : Safe region extra keep (writeVector platform val) ended := by
  unfold writeVector
  split
  · exact .fail
  · refine (safe_writeWord _).bind fun _ _ => ?_
    dsimp only
    apply (safe_ioPushUnaligned _).bind
    intro ptr room
    apply safe_memcpyS room
    rw [List.length_take]
    omega

theorem safe_forEach {body : α → Io β} (each : ∀ item, Safe region extra keep (body item) ended) (items : List α) :
    Safe region extra keep (forEach body items) ended := by
  have turn : ∀ item ∈ items, ∀ turns : Nat, Meets (effect region extra) (fun s => Cursors region s.io) (Steady region keep)
      (body item) fun _ => Steady region keep := fun item _ _ => Meets.mono (each item) fun _ _ held => held.2
  have looped := @Meets.forEach _ _ _ _ _ body (fun _ => Steady region keep) items turn
  exact looped.mono fun _ _ held => ⟨trivial,held⟩

theorem safe_writeEach {write : α → Io Unit} (each : ∀ item, Safe region extra keep (write item) ended) (val : List α) :
    Safe region extra keep (writeEach write val) ended := by
  unfold writeEach
  split
  · exact .fail
  · exact (safe_writeWord _).bind fun _ _ => (safe_forEach each val).bind fun _ _ => .pure trivial

theorem safe_readVector (width : Nat) (limit : Option Nat) : Safe region extra keep (readVector width limit) ended := by
  refine (safe_readWord UInt32).bind fun size _ => ?_
  split
  · exact .fail
  · exact (safe_ioPopUnaligned _).bind fun _ _ => .pure trivial

theorem safe_readEach (limit width : Nat) (convert : Int32 → β) :
    Safe region extra keep (readEach platform limit width convert) ended := by
  refine (safe_readWord UInt32).bind fun size _ => ?_
  split
  · exact .fail
  split
  · exact .fail
  · exact safe_forEach (fun _ => (safe_readWord Int32).bind fun _ _ => .pure trivial) _

theorem safe_elements [Word α] {read : Io (Nat × Nat)} (safe : Safe region extra keep read ended) :
    Safe region extra keep (elements α read) ended :=
  safe.bind fun _ _ => .observe _

/-! Objects: the offsets are those of the `IpcIo` as it was read at the start. -/

def same (io : IpcIo) : Nat → Nat → Prop := fun cur left => cur = io.offsetsCur ∧ left = io.offsetsLeft

/-- From a state with the offsets of `io` to one where nothing is known of them. -/
def Moves (region : Region) (extra : Nat × Nat → Prop) (io : IpcIo) (program : Io α) (post : α → Prop) : Prop :=
  Meets (effect region extra) (fun s => Cursors region s.io) (Steady region (same io)) program
    fun value s => post value ∧ Steady region any s

theorem Safe.moves {io : IpcIo} {program : Io α} (safe : Safe region extra any program post) : Moves region extra io program post :=
  Meets.strengthen safe fun _ held => ⟨held.1,trivial⟩

theorem Safe.seen {rest : IpcIo → Io β} (each : ∀ io, Cursors region io → Moves region extra io (rest io) last) :
    Safe region extra any (Program.observe State.io >>= rest) last := by
  have seen : Meets (effect region extra) (fun s => Cursors region s.io) (Steady region any) (Program.observe State.io)
      fun io s => Cursors region io ∧ Steady region (same io) s :=
    Meets.observe fun s held => ⟨held.1,held.1,rfl,rfl⟩
  exact Meets.bind seen fun io s held => each io held.1 s held.2

theorem Moves.after {io : IpcIo} {first : Io α} {rest : α → Io β} (begins : Safe region extra (same io) first post)
    (goesOn : ∀ value, post value → Moves region extra io (rest value) last) : Moves region extra io (first >>= rest) last :=
  Meets.bind begins fun value s held => goesOn value held.1 s held.2

theorem meets_takeOffset {io : IpcIo} {left : Nat → Nat → Prop} (more : io.offsetsLeft ≠ 0)
    (holds : left (io.offsetsCur+sizeSize) (io.offsetsLeft-1)) :
    Meets (effect region extra) (fun s => Cursors region s.io) (Steady region (same io))
      (update fun s =>
        { s with io := { s.io with offsetsCur := io.offsetsCur+sizeSize, offsetsLeft := io.offsetsLeft-1 } })
      fun _ => Steady region left := by
  apply Meets.update
  · intro s _
    exact (effect region extra).refl s
  · rintro s ⟨held,cur,count⟩
    have start := held.offsetsStart
    have stop := held.offsetsStop
    rw [cur] at start stop
    rw [count] at stop
    refine ⟨⟨held.base,held.start,held.stop,held.offsetsBase,?_,?_⟩,holds⟩
    · simp only
      omega
    · simp only [sizeSize] at stop ⊢
      omega

theorem inside_offset {io : IpcIo} (held : Cursors region io) (more : io.offsetsLeft ≠ 0) :
    region.Inside (io.offsetsCur,sizeSize) := by
  have base := held.offsetsBase
  have start := held.offsetsStart
  have stop := held.offsetsStop
  refine .inr ⟨by simp only; omega,?_⟩
  simp only [sizeSize] at stop ⊢
  omega

/-- After the object has its place: the next offset is recorded, if the table has one more. -/
theorem moves_recordOffset {io : IpcIo} {ptr : Nat} {offset : UInt64} (cursors : Cursors region io) (more : io.offsetsLeft ≠ 0)
    (room : region.Room ptr flatBinderObjectSize) :
    Moves region extra io (do
      store io.offsetsCur offset
      update fun s =>
        { s with io := { s.io with offsetsCur := io.offsetsCur+sizeSize, offsetsLeft := io.offsetsLeft-1 } }
      pure ptr) (region.Room · flatBinderObjectSize) := by
  apply Moves.after (safe_store (inside_offset cursors more))
  intro _ _
  exact Meets.bind (meets_takeOffset more trivial) fun _ => Meets.pure fun s held => ⟨room,held⟩

theorem safe_ioPushBinderObj : Safe region extra any ioPushBinderObj (region.Room · flatBinderObjectSize) := by
  apply Safe.seen
  intro io cursors
  split
  · exact Safe.fail.moves
  have pushed : Meets (effect region extra) (fun s => Cursors region s.io) (Steady region (same io))
      (attempt (ioPush flatBinderObjectSize)) fun outcome s =>
        Steady region any s ∧ ∀ ptr ∈ outcome, region.Room ptr flatBinderObjectSize ∧ Steady region (same io) s :=
    Meets.attempt (safe_ioPush _) (fun s held => ⟨⟨held,trivial⟩,fun _ absent => by cases absent⟩)
      fun ptr s held => ⟨⟨held.2.1,trivial⟩,fun _ same => by cases same; exact held⟩
  apply Meets.bind pushed
  intro outcome
  cases outcome with
  | none => exact Meets.strengthen safe_overflows fun _ held => held.1
  | some ptr =>
    dsimp only
    split
    · exact Meets.strengthen safe_overflows fun _ held => held.1
    · rename_i more
      intro s held
      obtain ⟨room,steady⟩ := held.2 ptr rfl
      exact moves_recordOffset cursors more room s steady

/-! The fields of a flat object: its type, and what lies at an offset. -/

theorem safe_storeType {ptr : Nat} {type : UInt32} (room : region.Room ptr flatBinderObjectSize) :
    Safe region extra keep (store ptr type) ended := safe_store (.inl (room.front (show 4 ≤ flatBinderObjectSize by decide)))

theorem safe_storeField [Word α] {ptr offset : Nat} {value : α} (room : region.Room ptr flatBinderObjectSize)
    (fits : offset+Word.width α ≤ flatBinderObjectSize) : Safe region extra keep (store (ptr+offset) value) ended :=
  safe_store (.inl (room.part fits))

theorem safe_loadType {ptr : Nat} (room : region.Room ptr flatBinderObjectSize) :
    Safe region extra keep (load UInt32 ptr) ended := safe_load UInt32 (.inl (.inl (room.front (show 4 ≤ flatBinderObjectSize by decide))))

theorem safe_loadField (α : Type) [Word α] {ptr offset : Nat} (room : region.Room ptr flatBinderObjectSize)
    (fits : offset+Word.width α ≤ flatBinderObjectSize) : Safe region extra keep (load α (ptr+offset)) ended :=
  safe_load α (.inl (.inl (room.part fits)))

theorem safe_ipcIoPushObject (cookie : UInt64) : Safe region extra any (ipcIoPushObject cookie) ended := by
  apply safe_ioPushBinderObj.bind
  intro ptr room
  refine (safe_storeField room (by decide)).bind fun _ _ => ?_
  refine (safe_storeType room).bind fun _ _ => ?_
  exact (safe_storeField room (by decide)).bind fun _ _ => safe_storeField room (by decide)

theorem safe_ipcIoPushRef (handle : UInt32) (cookie : UInt64) : Safe region extra any (ipcIoPushRef handle cookie) ended := by
  apply safe_ioPushBinderObj.bind
  intro ptr room
  refine (safe_storeField room (by decide)).bind fun _ _ => ?_
  refine (safe_storeType room).bind fun _ _ => ?_
  exact (safe_storeField room (by decide)).bind fun _ _ => safe_storeField room (by decide)

theorem safe_writeRemoteObject (svc : SvcIdentity) : Safe region extra any (writeRemoteObject svc) ended := by
  unfold writeRemoteObject
  split
  · exact safe_ipcIoPushObject _
  · exact safe_ipcIoPushRef _ _

theorem safe_writeFileDescriptor (fd : UInt32) : Safe region extra any (writeFileDescriptor fd) ended := by
  apply safe_ioPushBinderObj.bind
  intro ptr room
  refine (safe_storeField room (by decide)).bind fun _ _ => ?_
  refine (safe_storeType room).bind fun _ _ => ?_
  refine (safe_storeField room (by decide)).bind fun _ _ => ?_
  exact (safe_storeField room (by decide)).bind fun _ _ => safe_storeField room (by decide)

theorem safe_ipcIoPopRef : Safe region extra any ipcIoPopRef (region.Room · flatBinderObjectSize) := by
  apply Safe.seen
  intro io cursors
  split
  · exact Safe.fail.moves
  split
  · exact Safe.moves safe_overflows
  · rename_i more
    apply Moves.after (safe_ioPop _)
    intro obj room
    exact Meets.bind (meets_takeOffset more trivial) fun _ => Meets.pure fun s held => ⟨room,held⟩

theorem safe_readRemoteObject (svc : SvcIdentity) : Safe region extra any (readRemoteObject svc) ended := by
  apply safe_ipcIoPopRef.bind
  intro obj room
  refine (safe_loadType room).bind fun type _ => ?_
  split
  · refine (safe_loadField UInt64 room (by decide)).bind fun token _ => ?_
    exact (safe_loadField UInt64 room (by decide)).bind fun cookie _ => .pure trivial
  · refine (safe_loadField Int32 room (by decide)).bind fun handle _ => ?_
    exact (safe_loadField UInt64 room (by decide)).bind fun cookie _ => .pure trivial

theorem safe_readFileDescriptor : Safe region extra any readFileDescriptor ended := by
  apply safe_ipcIoPopRef.bind
  intro obj room
  refine (safe_loadType room).bind fun type _ => ?_
  split
  · exact safe_loadField Int32 room (by decide)
  · exact .fail

/-! Appending: what is read of the other `IpcIo` lies in its own region. -/

theorem safe_appendOffset {offsetAdjust entry turns : Nat} (readable : extra (entry,sizeSize)) :
    Meets (effect region extra) (fun s => Cursors region s.io) (Steady region fun _ left => turns+1 ≤ left)
      (appendOffset offsetAdjust entry) fun _ => Steady region fun _ left => turns ≤ left := by
  have seen : Meets (effect region extra) (fun s => Cursors region s.io) (Steady region fun _ left => turns+1 ≤ left)
      (observe State.io) fun io s => (Cursors region io ∧ turns+1 ≤ io.offsetsLeft) ∧ Steady region (same io) s :=
    Meets.observe fun s held => ⟨held,held.1,rfl,rfl⟩
  apply Meets.bind seen
  intro io s held
  obtain ⟨⟨cursors,more⟩,steady⟩ := held
  have some : io.offsetsLeft ≠ 0 := by omega
  apply Meets.bind (safe_load UInt64 (.inr readable)) _ s steady
  intro offset t known
  apply Meets.bind (safe_store (inside_offset cursors some)) _ t known.2
  intro _ u stored
  exact meets_takeOffset some (show turns ≤ io.offsetsLeft-1 by omega) u stored.2

theorem safe_ipcIoAppend {other : Region} {src : IpcIo} (source : Cursors other src) :
    Safe region other.Inside any (ipcIoAppend platform src) ended := by
  have used : src.bufferCur-src.bufferBase < 2^63 := by
    have base := source.base
    have stop := source.stop
    have small := other.small
    omega
  apply Safe.seen
  intro dst cursors
  dsimp only
  split
  · exact Safe.fail.moves
  split
  · exact Safe.fail.moves
  split
  · exact Safe.fail.moves
  split
  · rename_i enough _
    apply Moves.after (safe_ioPush _)
    intro ptr room
    refine Moves.after (safe_memsetS room le_rfl) fun _ _ => ?_
    refine Moves.after (safe_touch (.inr (.inl ⟨source.base.ge,?_⟩))) fun _ _ => ?_
    · have start := source.start
      have stop := source.stop
      simp only
      omega
    have copied : Safe region other.Inside (same dst)
        (observe fun s => s.memory.readBytes src.bufferBase (src.bufferCur-src.bufferBase))
        fun bytes => bytes.length = src.bufferCur-src.bufferBase :=
      Meets.observe fun s held => ⟨Memory.readBytes_length _ _ _,held⟩
    refine Moves.after copied fun bytes length => ?_
    refine Moves.after (safe_memcpyS room (by rw [length]; exact le_ioAlign used)) fun _ _ => ?_
    have turn : ∀ i ∈ List.range ((src.offsetsCur-src.offsetsBase)/sizeSize), ∀ turns,
        Meets (effect region other.Inside) (fun s => Cursors region s.io) (Steady region fun _ left => turns+1 ≤ left)
          (appendOffset (ptr-dst.bufferBase) (src.offsetsBase+i*sizeSize)) fun _ => Steady region fun _ left => turns ≤ left := by
      intro i member turns
      apply safe_appendOffset
      have index := List.mem_range.mp member
      have base := source.offsetsBase
      have stop := source.offsetsStop
      refine .inr ⟨by simp only; omega,?_⟩
      simp only [sizeSize] at index stop ⊢
      omega
    have looped := @Meets.forEach _ _ _ _ _ _ (fun turns => Steady region fun _ left => turns ≤ left) _ turn
    refine Meets.bind (Meets.strengthen looped ?_) fun _ => Meets.pure fun _ held => ⟨trivial,held.1,trivial⟩
    rintro s ⟨held,_,left⟩
    refine ⟨held,?_⟩
    rw [left,List.length_range]
    omega
  · exact Safe.moves (.pure trivial)

/-! Every call. -/

theorem safe_write (item : Item) : Safe region extra any (item.write platform) ended := by
  cases item with
  | bool _ | int8 _ | uint8 _ | int16 _ | uint16 _ | int32 _ | uint32 _ | int64 _ | uint64 _ | float _ | double _ | pointer _ =>
    exact safe_writeWord _
  | boolUnaligned _ | int8Unaligned _ | uint8Unaligned _ | int16Unaligned _ | uint16Unaligned _ => exact safe_writeWordUnaligned _
  | string value => exact safe_writeString value
  | string16 value => exact safe_writeString16 value
  | interfaceToken name => exact safe_writeInterfaceToken name
  | buffer data => exact safe_writeBuffer data
  | rawData data => exact safe_writeRawData data
  | boolVector val => exact safe_writeEach (fun _ => safe_writeWord _) val
  | int16Vector val => exact safe_writeEach (fun _ => safe_writeWord _) val
  | int8Vector val | int32Vector val | int64Vector val | uint8Vector val | uint16Vector val | uint32Vector val | uint64Vector val
  | floatVector val | doubleVector val => exact safe_writeVector val

theorem Safe.map {program : Io α} (safe : Safe region extra keep program post) (f : α → β) :
    Safe region extra keep (f <$> program) ended :=
  safe.bind fun _ _ => .pure trivial

theorem safe_read (kind : Kind) : Safe region extra any (kind.read platform) ended := by
  cases kind with
  | bool | int8 | uint8 | int16 | uint16 | int32 | uint32 | int64 | uint64 | float | double | pointer =>
    exact (safe_readWord _).map _
  | boolUnaligned | int8Unaligned | uint8Unaligned | int16Unaligned | uint16Unaligned => exact (safe_readWordUnaligned _).map _
  | string => exact (safe_elements safe_readString).map _
  | string16 | interfaceToken => exact (safe_elements safe_readString16).map _
  | buffer size => exact (safe_elements (safe_readBuffer size)).map _
  | rawData size => exact (safe_elements (safe_readRawData size)).map _
  | boolVector | int16Vector => exact (safe_readEach _ _ _).map _
  | int8Vector | int32Vector | int64Vector | uint8Vector | uint16Vector | uint32Vector | uint64Vector | floatVector
  | doubleVector => exact (safe_elements (safe_readVector _ _)).map _

/-- What an `IpcIoAppend` may read besides the region of its destination. -/
def Reads (regions : Nat → Region) : Call → Nat × Nat → Prop
  | .ipcIoAppend src,access => (regions src).Inside access
  | _,_ => False

theorem safe_call (platform : Platform) {regions : Nat → Region} {ios : Nat → IpcIo} (cursors : ∀ i, Cursors (regions i) (ios i)) (call : Call) :
    Safe region (Reads regions call) any (call.run platform ios) ended := by
  cases call with
  | write item => exact safe_write item
  | read kind => exact (safe_read kind).bind fun _ _ => .pure trivial
  | writeRemoteObject svc => exact safe_writeRemoteObject svc
  | writeFileDescriptor fd => exact safe_writeFileDescriptor fd
  | readRemoteObject svc => exact (safe_readRemoteObject svc).bind fun _ _ => .pure trivial
  | readFileDescriptor => exact safe_readFileDescriptor.bind fun _ _ => .pure trivial
  | ioPush size => exact (safe_ioPush _).bind fun _ _ => .pure trivial
  | ioPop size => exact (safe_ioPop _).bind fun _ _ => .pure trivial
  | ipcIoAppend src => exact safe_ipcIoAppend (cursors src)
  | nullArgument => exact .fail

end Safe

/-! Once the overflow flag is set. -/

def Stuck (s : State) : Prop := s.io.overflow = true

structure Unmoved (s t : State) : Prop where
  overflow : s.io.overflow = true → t.io.overflow = true
  bufferCur : t.io.bufferCur = s.io.bufferCur
  offsetsCur : t.io.offsetsCur = s.io.offsetsCur
  memory : t.memory = s.memory

def Closed {α : Type} (program : Io α) : Prop := Refuses Stuck Unmoved program

section Closed
variable {α β : Type}

theorem Unmoved.refl (s : State) : Unmoved s s := ⟨fun flag => flag,rfl,rfl,rfl⟩

theorem Unmoved.trans {s t u : State} (first : Unmoved s t) (second : Unmoved t u) : Unmoved s u :=
  ⟨fun flag => second.overflow (first.overflow flag),second.bufferCur.trans first.bufferCur,
    second.offsetsCur.trans first.offsetsCur,second.memory.trans first.memory⟩

theorem closed_fail : Closed (fail : Io α) := Refuses.fail Unmoved.refl

theorem closed_overflows : Closed (overflows : Io α) := fun _ _ => ⟨rfl,fun _ => rfl,rfl,rfl,rfl⟩

theorem Closed.bind {first : Io α} (closed : Closed first) (rest : α → Io β) : Closed (first >>= rest) := Refuses.bind closed rest

theorem closed_seen {rest : IpcIo → Io β} (each : ∀ io : IpcIo, io.overflow = true → Closed (rest io)) :
    Closed (observe State.io >>= rest) :=
  Refuses.observe (fun _ held => held) each

theorem closed_attempt {first : Io α} {rest : Option α → Io β} (caught : Closed first) (closed : Closed (rest none)) :
    Closed (attempt first >>= rest) :=
  Refuses.attempt (fun left held => left.overflow held) Unmoved.trans caught closed

theorem not_available {io : IpcIo} (flag : io.overflow = true) : ¬ ipcIoAvailable io = true := by
  rw [ipcIoAvailable,flag]
  simp

theorem closed_unavailable {rest : IpcIo → Io α} :
    Closed (do
      let io ← observe State.io
      if ¬ ipcIoAvailable io then overflows else rest io) := by
  apply closed_seen
  intro io flag
  rw [if_pos (not_available flag)]
  exact closed_overflows

theorem closed_ioPush (size : Nat) : Closed (ioPush size) := closed_unavailable
theorem closed_ioPop (size : Nat) : Closed (ioPop size) := closed_unavailable
theorem closed_ioPushUnaligned (size : Nat) : Closed (ioPushUnaligned size) := closed_unavailable
theorem closed_ioPopUnaligned (size : Nat) : Closed (ioPopUnaligned size) := closed_unavailable

theorem closed_writeWord [Word α] (value : α) : Closed (writeWord value) := (closed_ioPush _).bind _
theorem closed_writeWordUnaligned [Word α] (value : α) : Closed (writeWordUnaligned value) := (closed_ioPushUnaligned _).bind _
theorem closed_readWord (α : Type) [Word α] : Closed (readWord α) := (closed_ioPop _).bind _
theorem closed_readWordUnaligned (α : Type) [Word α] : Closed (readWordUnaligned α) := (closed_ioPopUnaligned _).bind _

variable {platform : Platform}

theorem closed_writeString (value : List UInt8) : Closed (writeString platform value) := by
  unfold writeString
  dsimp only
  split
  · exact closed_overflows
  · exact (closed_writeWord _).bind _

theorem closed_writeString16 (value : List UInt16) : Closed (writeString16 platform value) := by
  unfold writeString16
  split
  · exact closed_fail
  dsimp only
  split
  · exact closed_overflows
  · exact (closed_writeWord _).bind _

theorem closed_writeInterfaceToken (name : List UInt16) : Closed (writeInterfaceToken platform name) := by
  unfold writeInterfaceToken
  split
  · exact closed_fail
  split
  · exact closed_overflows
  · exact closed_writeString16 name

theorem closed_writeBuffer (data : List UInt8) : Closed (writeBuffer platform data) := by
  unfold writeBuffer
  split
  · exact closed_fail
  split
  · exact closed_overflows
  · exact (closed_ioPush _).bind _

theorem closed_writeRawData (data : List UInt8) : Closed (writeRawData platform data) := by
  unfold writeRawData
  split
  · exact closed_fail
  split
  · exact closed_overflows
  · exact (closed_writeWord _).bind _

theorem closed_readBuffer (size : UInt64) : Closed (readBuffer size) := by
  unfold readBuffer
  split
  · exact closed_fail
  · exact (closed_ioPop _).bind _

theorem closed_readRawData (size : UInt64) : Closed (readRawData size) := by
  unfold readRawData
  split
  · exact closed_fail
  · apply closed_attempt (closed_readWord UInt32)
    split
    · exact closed_fail
    · exact closed_readBuffer _

theorem closed_writeVector [Word α] (val : List α) : Closed (writeVector platform val) := by
  unfold writeVector
  split
  · exact closed_fail
  · exact (closed_writeWord _).bind _

theorem closed_writeEach (write : α → Io Unit) (val : List α) : Closed (writeEach write val) := by
  unfold writeEach
  split
  · exact closed_fail
  · exact (closed_writeWord _).bind _

theorem closed_ioPushBinderObj : Closed ioPushBinderObj := by
  apply closed_seen
  intro io _
  split
  · exact closed_fail
  · exact closed_attempt (closed_ioPush _) closed_overflows

theorem closed_writeRemoteObject (svc : SvcIdentity) : Closed (writeRemoteObject svc) := by
  unfold writeRemoteObject
  split
  · exact closed_ioPushBinderObj.bind _
  · exact closed_ioPushBinderObj.bind _

theorem closed_ipcIoPopRef : Closed ipcIoPopRef := by
  apply closed_seen
  intro io _
  split
  · exact closed_fail
  split
  · exact closed_overflows
  · exact (closed_ioPop _).bind _

theorem closed_ipcIoAppend (src : IpcIo) : Closed (ipcIoAppend platform src) := by
  apply closed_seen
  intro dst flag
  dsimp only
  rw [if_pos (.inl (not_available flag))]
  exact closed_fail

theorem closed_write (item : Item) : Closed (item.write platform) := by
  cases item with
  | bool _ | int8 _ | uint8 _ | int16 _ | uint16 _ | int32 _ | uint32 _ | int64 _ | uint64 _ | float _ | double _ | pointer _ =>
    exact closed_writeWord _
  | boolUnaligned _ | int8Unaligned _ | uint8Unaligned _ | int16Unaligned _ | uint16Unaligned _ =>
    exact closed_writeWordUnaligned _
  | string value => exact closed_writeString value
  | string16 value => exact closed_writeString16 value
  | interfaceToken name => exact closed_writeInterfaceToken name
  | buffer data => exact closed_writeBuffer data
  | rawData data => exact closed_writeRawData data
  | boolVector val => exact closed_writeEach _ val
  | int16Vector val => exact closed_writeEach _ val
  | int8Vector val | int32Vector val | int64Vector val | uint8Vector val | uint16Vector val | uint32Vector val | uint64Vector val
  | floatVector val | doubleVector val => exact closed_writeVector val

theorem Closed.map {program : Io α} (closed : Closed program) (f : α → β) : Closed (f <$> program) := closed.bind _

theorem closed_read (kind : Kind) : Closed (kind.read platform) := by
  cases kind with
  | bool | int8 | uint8 | int16 | uint16 | int32 | uint32 | int64 | uint64 | float | double | pointer =>
    exact (closed_readWord _).map _
  | boolUnaligned | int8Unaligned | uint8Unaligned | int16Unaligned | uint16Unaligned =>
    exact (closed_readWordUnaligned _).map _
  | buffer size => exact ((closed_readBuffer size).bind _).map _
  | rawData size => exact ((closed_readRawData size).bind _).map _
  | boolVector | int16Vector => exact ((closed_readWord UInt32).bind _).map _
  | string | string16 | interfaceToken | int8Vector | int32Vector | int64Vector | uint8Vector | uint16Vector | uint32Vector
  | uint64Vector | floatVector | doubleVector => exact (((closed_readWord UInt32).bind _).bind _).map _

theorem closed_call (platform : Platform) (ios : Nat → IpcIo) (call : Call) : Closed (call.run platform ios) := by
  cases call with
  | write item => exact closed_write item
  | read kind => exact (closed_read kind).bind _
  | writeRemoteObject svc => exact closed_writeRemoteObject svc
  | writeFileDescriptor fd => exact closed_ioPushBinderObj.bind _
  | readRemoteObject svc => exact (closed_ipcIoPopRef.bind _).bind _
  | readFileDescriptor => exact (closed_ipcIoPopRef.bind _).bind _
  | ioPush size => exact (closed_ioPush _).bind _
  | ioPop size => exact (closed_ioPop _).bind _
  | ipcIoAppend src => exact closed_ipcIoAppend _
  | nullArgument => exact closed_fail

end Closed

/-! Runs over several `IpcIo`. -/

/-- Of `IpcIoInit`: the arguments it takes, with room for the offsets. -/
def ValidInit (buffer bufferSize maxobjects : Nat) : Prop :=
  buffer ≠ 0 ∧ bufferSize ≠ 0 ∧ bufferSize ≤ maxIoSize ∧ maxobjects ≤ maxObjNum ∧ maxobjects*sizeSize ≤ bufferSize

/-- The offsets at the front of the buffer and the data behind them. -/
def Region.ofBuffer (buffer bufferSize maxobjects : Nat) (valid : ValidInit buffer bufferSize maxobjects) : Region where
  data := buffer+maxobjects*sizeSize
  dataSize := bufferSize-maxobjects*sizeSize
  table := buffer
  tableCount := maxobjects
  apart := .inr le_rfl
  small := by
    have size := valid.2.2.1
    unfold maxIoSize at size
    omega

/-- Set up by `IpcIoInit`, or over a received buffer. -/
inductive Started : Region → IpcIo → Prop
  | ipcIoInit (io : IpcIo) (buffer bufferSize maxobjects : Nat) (valid : ValidInit buffer bufferSize maxobjects) :
      Started (.ofBuffer buffer bufferSize maxobjects valid) (ipcIoInit io buffer bufferSize maxobjects)
  | received (region : Region) :
      Started region ⟨region.data,region.table,region.data,region.table,region.dataSize,region.tableCount,true,false⟩

theorem ipcIoInit_valid {buffer bufferSize maxobjects : Nat} (io : IpcIo) (valid : ValidInit buffer bufferSize maxobjects) :
    ipcIoInit io buffer bufferSize maxobjects =
      ⟨buffer+maxobjects*sizeSize,buffer,buffer+maxobjects*sizeSize,buffer,bufferSize-maxobjects*sizeSize,maxobjects,true,false⟩ := by
  obtain ⟨some,full,size,objects,fits⟩ := valid
  unfold ipcIoInit
  rw [if_neg (by omega)]
  dsimp only
  rw [if_neg (by omega)]

theorem Started.cursors {region : Region} {io : IpcIo} (started : Started region io) : Cursors region io := by
  cases started with
  | ipcIoInit io buffer bufferSize maxobjects valid =>
    rw [ipcIoInit_valid io valid]
    exact ⟨rfl,le_rfl,le_rfl,rfl,le_rfl,le_rfl⟩
  | received region => exact ⟨rfl,le_rfl,le_rfl,rfl,le_rfl,le_rfl⟩

section Runs
variable {platform : Platform} {regions : Nat → Region}

/-- What one call keeps: the cursors of its own `IpcIo`, and every byte outside its region. -/
theorem call_safe (platform : Platform) {system : System} (cursors : ∀ i, Cursors (regions i) (system.ios i)) (position : Nat) (call : Call) :
    (∀ i, Cursors (regions i) ((system.call platform position call).2.1.ios i)) ∧
      (∀ access ∈ (system.call platform position call).2.2,
        (regions position).Inside access ∨ Reads regions call access) ∧
      ∀ x, ¬ (regions position).Holds x → (system.call platform position call).2.1.memory x = system.memory x := by
  have safe := @safe_call (regions position) platform regions system.ios cursors call
  obtain ⟨⟨⟨more,touched,inside⟩,kept⟩,-⟩ := safe ⟨system.memory,system.ios position,[]⟩ ⟨cursors position,trivial⟩
  refine ⟨?_,?_,kept⟩
  · intro i
    simp only [System.call]
    rcases eq_or_ne i position with rfl | other
    · rw [Function.update_self]
      exact safe.cursors (cursors i)
    · rw [Function.update_of_ne other]
      exact cursors i
  · intro access member
    simp only [System.call] at member
    rw [touched,List.nil_append] at member
    exact inside access member

theorem run_cursors {start system : System} {events : List (Nat × Call)} (started : ∀ i, Cursors (regions i) (start.ios i))
    (run : Reaches (does (System.step platform)) start events system) : ∀ i, Cursors (regions i) (system.ios i) := by
  refine run.invariant (fun system => ∀ i, Cursors (regions i) (system.ios i)) started ?_
  rintro before ⟨position,call⟩ after held rfl
  exact (call_safe platform held position call).1

theorem call_refused (platform : Platform) {system : System} {position : Nat} (flag : (system.ios position).overflow = true) (call : Call) :
    (system.call platform position call).1 = false ∧
      Unmoved ⟨system.memory,system.ios position,[]⟩
        ⟨(system.call platform position call).2.1.memory,(system.call platform position call).2.1.ios position,[]⟩ := by
  obtain ⟨failed,unmoved⟩ := closed_call platform system.ios call ⟨system.memory,system.ios position,[]⟩ flag
  simp only [System.call]
  rw [failed,Function.update_self]
  exact ⟨rfl,unmoved.overflow,unmoved.bufferCur,unmoved.offsetsCur,unmoved.memory⟩

/-- What a call on any `IpcIo` leaves of one that has overflowed. -/
theorem step_overflowed (platform : Platform) {system : System} {i : Nat} (cursors : ∀ i, Cursors (regions i) (system.ios i))
    (apart : ∀ j, j ≠ i → ∀ x, (regions i).Holds x → ¬ (regions j).Holds x) (flag : (system.ios i).overflow = true)
    (event : Nat × Call) :
    ((system.step platform event).ios i).overflow = true ∧
      ((system.step platform event).ios i).bufferCur = (system.ios i).bufferCur ∧
      ((system.step platform event).ios i).offsetsCur = (system.ios i).offsetsCur ∧
      ∀ x, (regions i).Holds x → (system.step platform event).memory x = system.memory x := by
  obtain ⟨position,call⟩ := event
  rcases eq_or_ne position i with rfl | other
  · obtain ⟨_,unmoved⟩ := call_refused platform flag call
    exact ⟨unmoved.overflow flag,unmoved.bufferCur,unmoved.offsetsCur,fun x _ => congrFun unmoved.memory x⟩
  · have kept := (call_safe platform cursors position call).2.2
    have same : (system.step platform (position,call)).ios i = system.ios i := Function.update_of_ne other.symm _ _
    rw [same]
    exact ⟨flag,rfl,rfl,fun x held => kept x (apart position other x held)⟩

theorem run_overflowed {system other : System} {i : Nat} {later : List (Nat × Call)}
    (cursors : ∀ i, Cursors (regions i) (system.ios i))
    (apart : ∀ j, j ≠ i → ∀ x, (regions i).Holds x → ¬ (regions j).Holds x) (flag : (system.ios i).overflow = true)
    (run : Reaches (does (System.step platform)) system later other) :
    (other.ios i).overflow = true ∧ (other.ios i).bufferCur = (system.ios i).bufferCur ∧
      (other.ios i).offsetsCur = (system.ios i).offsetsCur ∧
      ∀ x, (regions i).Holds x → other.memory x = system.memory x := by
  -- the cursors are carried along, for what the calls on the others write
  have both := run.invariant (fun other => (∀ i, Cursors (regions i) (other.ios i)) ∧
    (other.ios i).overflow = true ∧ (other.ios i).bufferCur = (system.ios i).bufferCur ∧
      (other.ios i).offsetsCur = (system.ios i).offsetsCur ∧
      ∀ x, (regions i).Holds x → other.memory x = system.memory x) ⟨cursors,flag,rfl,rfl,fun _ _ => rfl⟩ ?_
  · exact both.2
  · rintro before event after ⟨held,set,cur,offsets,bytes⟩ rfl
    obtain ⟨still,moved,entries,left⟩ := step_overflowed platform held apart set event
    exact ⟨(call_safe platform held event.1 event.2).1,still,moved.trans cur,entries.trans offsets,
      fun x inside => (left x inside).trans (bytes x inside)⟩

/-- In every state a run of calls reaches: the cursors of an `IpcIo` are in order and inside its region,
the offsets keep out of the data area; whatever is called next touches only the region, and that of the
source of an `IpcIoAppend`; and after an overflow every call fails and moves nothing, now and later. -/
theorem cursors_stay_inside {start system : System} {events : List (Nat × Call)}
    (started : ∀ i, Started (regions i) (start.ios i)) (run : Reaches (does (System.step platform)) start events system) (i : Nat) :
    Cursors (regions i) (system.ios i) ∧
      ((system.ios i).offsetsCur+(system.ios i).offsetsLeft*sizeSize ≤ (system.ios i).bufferBase ∨
        (regions i).data+(regions i).dataSize ≤ (system.ios i).offsetsBase) ∧
      (∀ call, ∀ access ∈ (system.call platform i call).2.2, (regions i).Inside access ∨ Reads regions call access) ∧
      ((system.ios i).overflow = true →
        (∀ call, (system.call platform i call).1 = false ∧ (system.call platform i call).2.1.memory = system.memory ∧
          ((system.call platform i call).2.1.ios i).bufferCur = (system.ios i).bufferCur ∧
          ((system.call platform i call).2.1.ios i).offsetsCur = (system.ios i).offsetsCur) ∧
        ((∀ j, j ≠ i → ∀ x, (regions i).Holds x → ¬ (regions j).Holds x) →
          ∀ later other, Reaches (does (System.step platform)) system later other →
            (other.ios i).overflow = true ∧ (other.ios i).bufferCur = (system.ios i).bufferCur ∧
            (other.ios i).offsetsCur = (system.ios i).offsetsCur ∧
            ∀ x, (regions i).Holds x → other.memory x = system.memory x)) := by
  have cursors := run_cursors (fun i => (started i).cursors) run
  refine ⟨cursors i,?_,fun call => (call_safe platform cursors i call).2.1,?_⟩
  · have base := (cursors i).base
    have offsetsBase := (cursors i).offsetsBase
    have stop := (cursors i).offsetsStop
    rcases (regions i).apart with behind | before
    · exact .inr (by omega)
    · exact .inl (by omega)
  · intro flag
    refine ⟨?_,fun apart later other more => run_overflowed cursors apart flag more⟩
    intro call
    obtain ⟨failed,unmoved⟩ := call_refused platform flag call
    exact ⟨failed,unmoved.memory,unmoved.bufferCur,unmoved.offsetsCur⟩

/-- Three calls on an `IpcIo` of sixteen bytes with one object: the third finds no space. -/
theorem cursors_stay_inside_sixteen :
    ∃ (regions : Nat → Region) (start system : System),
      Reaches (does (System.step ⟨fun _ _ => .done,fun _ _ => .done,fun _ => true⟩)) start
        [(0,.write (.int32 7)),(0,.write (.string [104,105])),(0,.read .uint8)] system ∧
      (system.ios 0).overflow = true ∧ Cursors (regions 0) (system.ios 0) := by
  have valid : ∀ i, ValidInit (64*(i+1)) 16 1 := fun i => ⟨by omega,by decide,by decide,by decide,by decide⟩
  let blank : IpcIo := ⟨0,0,0,0,0,0,false,false⟩
  let start : System := ⟨fun _ => 0,fun i => ipcIoInit blank (64*(i+1)) 16 1⟩
  have run := Reaches.of_foldl (System.step ⟨fun _ _ => .done,fun _ _ => .done,fun _ => true⟩)
    [(0,.write (.int32 7)),(0,.write (.string [104,105])),(0,.read .uint8)] start
  have started : ∀ i, Started (.ofBuffer _ _ _ (valid i)) (start.ios i) := fun i => .ipcIoInit blank _ _ _ (valid i)
  exact ⟨fun i => .ofBuffer _ _ _ (valid i),start,_,run,by decide,(cursors_stay_inside started run 0).1⟩

end Runs

end CommunicationIpc.SerializerCursor
