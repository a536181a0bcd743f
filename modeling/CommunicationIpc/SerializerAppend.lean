import CommunicationIpc.SerializerRoundTrip

/-! One `IpcIo` appended to another. `IpcIoAppend` compares what is left with the bytes the source has used, and then takes as many,
rounded up; what it has changed when it finds that these do not fit, it leaves so. -/
namespace CommunicationIpc.SerializerAppend
open CommunicationIpc.Library CommunicationIpc.Library.Program CommunicationIpc.Kernel.Serializer
open CommunicationIpc.Kernel.Framing.Lite (sizeSize)
open CommunicationIpc.SerializerCursor (Region Cursors ioAlign_of_small)
open CommunicationIpc.SerializerRoundTrip
open CommunicationIpc.Semantics

/-- The bytes up to the cursor. -/
def used (memory : Memory) (io : IpcIo) : List UInt8 := memory.readBytes io.bufferBase (io.bufferCur-io.bufferBase)

def usedOffsetsNum (io : IpcIo) : Nat := (io.offsetsCur-io.offsetsBase)/sizeSize

def entries (memory : Memory) (io : IpcIo) : List UInt64 := memory.loads UInt64 io.offsetsBase (usedOffsetsNum io)

def InUse (io : IpcIo) (x : Nat) : Prop :=
  (io.bufferBase ≤ x ∧ x < io.bufferCur) ∨ (io.offsetsBase ≤ x ∧ x < io.offsetsCur)

def Free (io : IpcIo) (x : Nat) : Prop :=
  (io.bufferCur ≤ x ∧ x < io.bufferCur+io.bufferLeft) ∨ (io.offsetsCur ≤ x ∧ x < io.offsetsCur+io.offsetsLeft*sizeSize)

/-- What the source has used is nothing that the destination has left: each has its own buffer, or they are one. -/
def Apart (dst src : IpcIo) : Prop := ∀ x, InUse src x → ¬ Free dst x

section Loop

/-- An `IpcIo` with `count` more offsets. -/
def recorded (io : IpcIo) (count : Nat) : IpcIo :=
  { io with offsetsCur := io.offsetsCur+count*sizeSize, offsetsLeft := io.offsetsLeft-count }

theorem recorded_recorded (io : IpcIo) (first second : Nat) : recorded (recorded io first) second = recorded io (first+second) := by
  simp only [recorded,Nat.add_assoc,Nat.sub_sub,Nat.add_mul]

structure Recorded (s t : State) (offsets : List UInt64) : Prop where
  memory : t.memory = s.memory.writeBytes s.io.offsetsCur (Word.array offsets)
  io : t.io = recorded s.io offsets.length

theorem Recorded.trans {s t u : State} {first second : List UInt64} (begins : Recorded s t first) (ends : Recorded t u second) :
    Recorded s u (first ++ second) := by
  constructor
  · have cursor : t.io.offsetsCur = s.io.offsetsCur+(Word.array first).length := by
      rw [begins.io,Word.array_length]
      rfl
    rw [ends.memory,begins.memory,cursor,Memory.writeBytes_append,Word.array,Word.array,Word.array,List.flatMap_append]
  · rw [ends.io,begins.io,recorded_recorded,List.length_append]

theorem appendOffset_run (adjust entry : Nat) (s : State) :
    ∃ t, appendOffset adjust entry s = (some (),t) ∧ Recorded s t [s.memory.load UInt64 entry+UInt64.ofNat adjust] := by
  refine ⟨_,rfl,?_,?_⟩
  · rw [Word.array,List.flatMap_singleton]
  · simp only [recorded,List.length_singleton,Nat.one_mul]

/-- The loop reads entries that it does not overwrite. -/
theorem appendOffsets_run (adjust table first count : Nat) (s : State)
    (apart : ∀ x, table+first*sizeSize ≤ x → x < table+first*sizeSize+count*sizeSize →
      ¬ (s.io.offsetsCur ≤ x ∧ x < s.io.offsetsCur+count*sizeSize)) :
    ∃ done t, forEach (fun i => appendOffset adjust (table+i*sizeSize)) (List.range' first count) s = (some done,t) ∧
      Recorded s t ((s.memory.loads UInt64 (table+first*sizeSize) count).map (· + UInt64.ofNat adjust)) := by
  induction count generalizing first s with
  | zero => exact ⟨[],s,rfl,(Memory.writeBytes_nil _ _).symm,rfl⟩
  | succ count ih =>
    obtain ⟨t,one,entry⟩ := appendOffset_run adjust (table+first*sizeSize) s
    have next : table+(first+1)*sizeSize = table+first*sizeSize+sizeSize := by rw [Nat.succ_mul,Nat.add_assoc]
    rw [Nat.succ_mul] at apart
    have cursor : t.io.offsetsCur = s.io.offsetsCur+sizeSize := by
      rw [entry.io]
      simp only [recorded,List.length_singleton,Nat.one_mul]
    have others : t.memory.loads UInt64 (table+(first+1)*sizeSize) count = s.memory.loads UInt64 (table+(first+1)*sizeSize) count := by
      apply Memory.loads_congr
      intro x low high
      have high' : x < table+(first+1)*sizeSize+count*sizeSize := high
      rw [entry.memory]
      apply Memory.writeBytes_outside
      rw [Word.array_length]
      by_contra within
      have within' : s.io.offsetsCur ≤ x ∧ x < s.io.offsetsCur+sizeSize := by
        have one : [s.memory.load UInt64 (table+first*sizeSize)+UInt64.ofNat adjust].length*Word.width UInt64 = sizeSize := rfl
        omega
      exact apart x (by omega) (by omega) ⟨within'.1,by omega⟩
    obtain ⟨done,u,ran,rest⟩ := ih (first+1) t (by
      rw [cursor,next]
      intro x low high within
      exact apart x (by omega) (by omega) ⟨by omega,by omega⟩)
    refine ⟨() :: done,u,?_,?_⟩
    · rw [List.range'_succ,forEach,bind_some one,bind_some ran]
      rfl
    · rw [others,next] at rest
      rw [Memory.loads_succ,List.map_cons]
      exact entry.trans rest

end Loop

/-- Bytes are put behind the cursor and entries behind the last offset, and both are counted. -/
structure Copied (s t : State) (bytes : List UInt8) (offsets : List UInt64) : Prop where
  fits : bytes.length ≤ s.io.bufferLeft
  room : offsets.length ≤ s.io.offsetsLeft
  io : t.io = recorded (moved s.io bytes.length) offsets.length
  memory : t.memory = (s.memory.writeBytes s.io.bufferCur bytes).writeBytes s.io.offsetsCur (Word.array offsets)

section Copied
variable {region : Region} {s t : State} {bytes : List UInt8} {offsets : List UInt64}

/-- The data and the offsets are apart. -/
theorem data_not_offsets (cursors : Cursors region s.io) {x : Nat} (low : s.io.bufferBase ≤ x) (high : x < s.io.bufferCur+s.io.bufferLeft) :
    x < s.io.offsetsBase ∨ s.io.offsetsCur+s.io.offsetsLeft*sizeSize ≤ x := by
  have base := cursors.base
  have stop := cursors.stop
  have offsetsBase := cursors.offsetsBase
  have offsetsStop := cursors.offsetsStop
  rcases region.apart with behind | before
  · exact .inl (by omega)
  · exact .inr (by omega)

theorem Copied.offsets_length (copied : Copied s t bytes offsets) : (Word.array offsets).length ≤ s.io.offsetsLeft*sizeSize := by
  rw [Word.array_length]
  exact Nat.mul_le_mul_right _ copied.room

theorem used_copied (copied : Copied s t bytes offsets) (cursors : Cursors region s.io) :
    used t.memory t.io = used s.memory s.io ++ bytes := by
  have start := cursors.start
  have offsetsStart := cursors.offsetsStart
  have fits := copied.fits
  have width := copied.offsets_length
  have data : ∀ x, s.io.bufferBase ≤ x → x < s.io.bufferCur+bytes.length → t.memory x = s.memory.writeBytes s.io.bufferCur bytes x := by
    intro x low high
    rw [copied.memory]
    apply Memory.writeBytes_outside
    rcases data_not_offsets cursors low (by omega) with before | behind
    · exact .inl (by omega)
    · exact .inr (by omega)
  have length : t.io.bufferCur-t.io.bufferBase = (s.io.bufferCur-s.io.bufferBase)+bytes.length := by
    rw [copied.io]
    simp only [recorded,moved]
    omega
  have base : t.io.bufferBase = s.io.bufferBase := by
    rw [copied.io]
    rfl
  rw [used,length,base,Memory.readBytes_add,Nat.add_sub_cancel' start]
  congr 1
  · apply Memory.readBytes_congr
    intro x low high
    rw [data x low (by omega)]
    exact Memory.writeBytes_outside (.inl (by omega))
  · have same : t.memory.readBytes s.io.bufferCur bytes.length =
        (s.memory.writeBytes s.io.bufferCur bytes).readBytes s.io.bufferCur bytes.length :=
      Memory.readBytes_congr fun x low high => data x (by omega) high
    rw [same,Memory.readBytes_writeBytes]

theorem entries_copied (copied : Copied s t bytes offsets) (cursors : Cursors region s.io)
    (whole : sizeSize ∣ s.io.offsetsCur-s.io.offsetsBase) : entries t.memory t.io = entries s.memory s.io ++ offsets := by
  have start := cursors.start
  have offsetsStart := cursors.offsetsStart
  have fits := copied.fits
  obtain ⟨before,same⟩ := whole
  have base : t.io.offsetsBase = s.io.offsetsBase := by
    rw [copied.io]
    rfl
  have counted : usedOffsetsNum s.io = before := by rw [usedOffsetsNum,same,Nat.mul_div_cancel_left _ (by decide)]
  have number : usedOffsetsNum t.io = before+offsets.length := by
    have moved_ : t.io.offsetsCur-t.io.offsetsBase = sizeSize*(before+offsets.length) := by
      rw [copied.io,Nat.mul_add,← same,Nat.mul_comm sizeSize offsets.length]
      simp only [recorded,moved]
      omega
    rw [usedOffsetsNum,moved_,Nat.mul_div_cancel_left _ (by decide)]
  have last : s.io.offsetsBase+before*Word.width UInt64 = s.io.offsetsCur := by
    have width : before*Word.width UInt64 = sizeSize*before := Nat.mul_comm _ _
    omega
  have kept : t.memory.loads UInt64 s.io.offsetsBase before = s.memory.loads UInt64 s.io.offsetsBase before := by
    apply Memory.loads_congr
    intro x low high
    rw [last] at high
    rw [copied.memory,Memory.writeBytes_outside (.inl high)]
    apply Memory.writeBytes_outside
    by_contra within
    rcases data_not_offsets cursors (x := x) (by omega) (by omega) with front | behind
    · omega
    · omega
  have added : t.memory.loads UInt64 s.io.offsetsCur offsets.length = offsets := by
    apply Memory.loads_of_bytes
    rw [copied.memory,← Word.array_length]
    exact Memory.readBytes_writeBytes _ _ _
  rw [entries,entries,number,base,counted,Memory.loads_add,kept,last,added]

end Copied

/-- Whoever reads the bytes of `whole` gets the values whose wire form is `front`, and then has `rest` before him. -/
def ReadsOn (front rest whole : List UInt8) : Prop :=
  ∀ (reader : Platform) (items : List Item) (r : State),
    (∀ item ∈ items, ∀ size, blockSize item = some size → reader.malloc size = true) →
    front = items.flatMap Wire.encode → (∀ item ∈ items, Filled item ∧ (Wire.encode item).length ≤ maxIoSize) → Ready r whole →
    ∃ u, forEach (Kind.read reader) (items.map Wire.kind) r = (some (items.map Wire.value),u) ∧ Ready u rest

/-- What `IpcIoAppend` is to do when it returns true. -/
structure Extended (s : State) (src : IpcIo) (t : State) : Prop where
  bytes : used t.memory t.io = used s.memory s.io ++ Wire.padded (used s.memory src)
  reads : ReadsOn (used s.memory s.io) (Wire.padded (used s.memory src)) (used t.memory t.io)
  table : entries t.memory t.io =
    entries s.memory s.io ++ (entries s.memory src).map (· + UInt64.ofNat (s.io.bufferCur-s.io.bufferBase))

/-- True, with the source behind what was there, or false, with nothing changed. -/
def Exact (platform : Platform) (src : IpcIo) (s : State) : Prop :=
  ((ipcIoAppend platform src s).1 = some () → Extended s src (ipcIoAppend platform src s).2) ∧
    ((ipcIoAppend platform src s).1 = none →
      (ipcIoAppend platform src s).2.io = s.io ∧ (ipcIoAppend platform src s).2.memory = s.memory)

/-- There is nothing to take over or not even room for it as it is, or else also for it rounded up, and the block is filled. -/
def Fits (platform : Platform) (dst src : IpcIo) : Prop :=
  let size := src.bufferCur-src.bufferBase
  size = 0 ∨ dst.bufferLeft < size ∨ dst.offsetsLeft < usedOffsetsNum src ∨
    (ioAlign size ≤ dst.bufferLeft ∧ platform.memsetS (ioAlign size) (ioAlign size) = .done ∧
      platform.memcpyS (ioAlign size) size = .done)

theorem readsOn_append (front rest : List UInt8) : ReadsOn front rest (front ++ rest) := by
  intro reader items r blocks written each ready
  have yields : ∀ item ∈ items, Yields ((Wire.kind item).read reader) (Wire.encode item) (Wire.value item) := by
    intro item member
    obtain ⟨filled,short⟩ := each item member
    exact yields_read reader item (blocks item member) filled short
  obtain ⟨_,u,ran,rfl,memory,io⟩ := yields_forEach items yields r (written ▸ ready.front)
  rw [← written] at io
  exact ⟨u,ran,ready.back memory io⟩

section Append
variable {platform : Platform} {region other : Region} {s : State} {src : IpcIo}

theorem ioPush_run {size : Nat} (available : ipcIoAvailable s.io = true) (fits : ioAlign size ≤ s.io.bufferLeft) :
    ioPush size s = (some s.io.bufferCur,{ s with io := moved s.io (ioAlign size) }) :=
  ioPush_some_iff.mpr ⟨available,fits,rfl,rfl⟩

theorem ioPush_crowded {size : Nat} (available : ipcIoAvailable s.io = true) (crowded : s.io.bufferLeft < ioAlign size) :
    ioPush size s = (none,{ s with io := { s.io with overflow := true } }) := by
  have seen : observe State.io s = (some s.io,s) := rfl
  rw [ioPush,bind_some seen,if_neg (by simp [available]),if_pos crowded]
  rfl

/-- What follows the checks, where the source has used `size` bytes. -/
def copies (platform : Platform) (dst src : IpcIo) (size : Nat) : Io Unit := do
  let ptr ← ioPush size
  memsetS platform ptr (ioAlign size) (ioAlign size)
  touch src.bufferBase size
  let source ← observe fun s => s.memory.readBytes src.bufferBase size
  memcpyS platform ptr (ioAlign size) source
  let _ ← forEach (fun i => appendOffset (ptr-dst.bufferBase) (src.offsetsBase+i*sizeSize)) (List.range (usedOffsetsNum src))
  pure ()

theorem ipcIoAppend_copies {size : Nat} (available : ipcIoAvailable s.io = true) (available' : ipcIoAvailable src = true)
    (size_ : src.bufferCur-src.bufferBase = size) (some_ : size ≠ 0) (room : size ≤ s.io.bufferLeft)
    (room' : usedOffsetsNum src ≤ s.io.offsetsLeft) : ipcIoAppend platform src s = copies platform s.io src size s := by
  have seen : observe State.io s = (some s.io,s) := rfl
  rw [ipcIoAppend,bind_some seen]
  dsimp only
  rw [size_,if_neg (by simp [available,available']),if_neg (fun none_ => some_ none_.1),
    if_neg (by rw [usedOffsetsNum] at room'; omega),if_pos (by omega)]
  rfl

theorem usedOffsets_lt {x : Nat} (low : src.offsetsBase ≤ x) (inside : x < src.offsetsBase+usedOffsetsNum src*sizeSize) : x < src.offsetsCur := by
  have whole := Nat.div_mul_le_self (src.offsetsCur-src.offsetsBase) sizeSize
  rw [usedOffsetsNum] at inside
  omega

/-- The source is read the same after a write into what the destination has left. -/
theorem Apart.kept (apart : Apart s.io src) {memory : Memory} {address : Nat} {bytes : List UInt8}
    (free : ∀ x, address ≤ x → x < address+bytes.length → Free s.io x) {x : Nat} (used_ : InUse src x) :
    memory.writeBytes address bytes x = memory x := by
  apply Memory.writeBytes_outside
  by_contra within
  exact apart x used_ (free x (by omega) (by omega))

theorem secured_failed {outcome : Secure} (failed : outcome ≠ .done) (ptr destMax : Nat) (bytes : List UInt8) (s : State) :
    ∃ t, secured outcome ptr destMax bytes s = (none,t) ∧ t.io.overflow = true := by
  cases outcome with
  | done => exact absurd rfl failed
  | refused => exact ⟨_,rfl,rfl⟩
  | cleared => exact ⟨_,rfl,rfl⟩

theorem memsetS_run (ptr : Nat) {size : Nat} (set : platform.memsetS size size = .done) (s : State) :
    ∃ t, memsetS platform ptr size size s = (some (),t) ∧ t.memory = s.memory.writeBytes ptr (List.replicate size 0) ∧ t.io = s.io := by
  rw [memsetS,set]
  exact ⟨_,rfl,rfl,rfl⟩

theorem memcpyS_run (ptr : Nat) {destMax : Nat} {source : List UInt8} (copied : platform.memcpyS destMax source.length = .done) (s : State) :
    ∃ t, memcpyS platform ptr destMax source s = (some (),t) ∧ t.memory = s.memory.writeBytes ptr source ∧ t.io = s.io := by
  rw [memcpyS,copied]
  exact ⟨_,rfl,rfl,rfl⟩

theorem copies_failed (dst src : IpcIo) {size : Nat} (available : ipcIoAvailable s.io = true)
    (failed : ¬ (ioAlign size ≤ s.io.bufferLeft ∧ platform.memsetS (ioAlign size) (ioAlign size) = .done ∧
      platform.memcpyS (ioAlign size) size = .done)) :
    ∃ t, copies platform dst src size s = (none,t) ∧ t.io.overflow = true := by
  unfold copies
  by_cases fits : ioAlign size ≤ s.io.bufferLeft
  · rw [bind_some (ioPush_run available fits)]
    by_cases set : platform.memsetS (ioAlign size) (ioAlign size) = .done
    · obtain ⟨t,cleared,-,-⟩ := memsetS_run s.io.bufferCur set { s with io := moved s.io (ioAlign size) }
      have touched : touch src.bufferBase size t = (some (),{ t with accesses := t.accesses ++ [(src.bufferBase,size)] }) := rfl
      have read : observe (fun s => s.memory.readBytes src.bufferBase size) { t with accesses := t.accesses ++ [(src.bufferBase,size)] } =
        (some (t.memory.readBytes src.bufferBase size),{ t with accesses := t.accesses ++ [(src.bufferBase,size)] }) := rfl
      have copied : platform.memcpyS (ioAlign size) (t.memory.readBytes src.bufferBase size).length ≠ .done := by
        rw [Memory.readBytes_length]
        exact fun copied => failed ⟨fits,set,copied⟩
      obtain ⟨u,ran,flag⟩ := secured_failed copied s.io.bufferCur (ioAlign size) (t.memory.readBytes src.bufferBase size)
        { t with accesses := t.accesses ++ [(src.bufferBase,size)] }
      refine ⟨u,?_,flag⟩
      rw [bind_some cleared,bind_some touched,bind_some read]
      exact bind_none ran
    · obtain ⟨t,ran,flag⟩ := secured_failed set s.io.bufferCur (ioAlign size) (List.replicate (ioAlign size) 0)
        { s with io := moved s.io (ioAlign size) }
      exact ⟨t,bind_none ran,flag⟩
  · rw [bind_none (ioPush_crowded available (by omega))]
    exact ⟨_,rfl,rfl⟩

theorem copies_done (apart : Apart s.io src) {size : Nat} (size_ : src.bufferCur-src.bufferBase = size) (small : size < 2^63)
    (available : ipcIoAvailable s.io = true) (fits : ioAlign size ≤ s.io.bufferLeft)
    (set : platform.memsetS (ioAlign size) (ioAlign size) = .done) (copied : platform.memcpyS (ioAlign size) size = .done)
    (room : usedOffsetsNum src ≤ s.io.offsetsLeft) :
    ∃ t, copies platform s.io src size s = (some (),t) ∧ Copied s t (Wire.padded (used s.memory src))
      ((entries s.memory src).map (· + UInt64.ofNat (s.io.bufferCur-s.io.bufferBase))) := by
  obtain ⟨t,cleared,memory,io⟩ := memsetS_run s.io.bufferCur set { s with io := moved s.io (ioAlign size) }
  have touched : touch src.bufferBase size t = (some (),{ t with accesses := t.accesses ++ [(src.bufferBase,size)] }) := rfl
  have source : t.memory.readBytes src.bufferBase size = used s.memory src := by
    rw [used,size_]
    apply Memory.readBytes_congr
    intro x low high
    rw [memory]
    apply apart.kept
    · intro y above below
      rw [List.length_replicate] at below
      exact .inl ⟨above,by omega⟩
    · exact .inl ⟨low,by omega⟩
  have length : (used s.memory src).length = size := by rw [used,Memory.readBytes_length,size_]
  have aligned : (Wire.padded (used s.memory src)).length = ioAlign size := by rw [padded_length,length,ioAlign_of_small small]
  have whole : platform.memcpyS (ioAlign size) (used s.memory src).length = .done := by
    rw [length]
    exact copied
  obtain ⟨u,filled,memory',io'⟩ := memcpyS_run s.io.bufferCur whole
    { t with accesses := t.accesses ++ [(src.bufferBase,size)] }
  have block : u.memory = s.memory.writeBytes s.io.bufferCur (Wire.padded (used s.memory src)) := by
    rw [memory',memory,Memory.writeBytes_over,List.drop_replicate,Wire.padded,length,ioAlign_of_small small]
  have read : observe (fun s => s.memory.readBytes src.bufferBase size) { t with accesses := t.accesses ++ [(src.bufferBase,size)] } =
      (some (used s.memory src),{ t with accesses := t.accesses ++ [(src.bufferBase,size)] }) := by
    rw [← source]
    rfl
  have cursors : u.io = moved s.io (ioAlign size) := by rw [io',io]
  have table : u.memory.loads UInt64 (src.offsetsBase+0*sizeSize) (usedOffsetsNum src) = entries s.memory src := by
    rw [Nat.zero_mul,Nat.add_zero,entries]
    apply Memory.loads_congr
    intro x low high
    rw [block]
    apply apart.kept
    · intro y above below
      rw [aligned] at below
      exact .inl ⟨above,by omega⟩
    · exact .inr ⟨low,usedOffsets_lt low high⟩
  obtain ⟨done,v,looped,recorded_⟩ := appendOffsets_run (s.io.bufferCur-s.io.bufferBase) src.offsetsBase 0 (usedOffsetsNum src) u (by
      rw [cursors,Nat.zero_mul,Nat.add_zero]
      intro x low high within
      refine apart x (.inr ⟨low,usedOffsets_lt low high⟩) (.inr ⟨within.1,Nat.lt_of_lt_of_le within.2 ?_⟩)
      exact Nat.add_le_add_left (Nat.mul_le_mul_right _ room) _)
  rw [table] at recorded_
  have number : ((entries s.memory src).map (· + UInt64.ofNat (s.io.bufferCur-s.io.bufferBase))).length = usedOffsetsNum src := by
    rw [List.length_map,entries,Memory.loads_length]
  refine ⟨v,?_,by rw [aligned]; exact fits,by rw [number]; exact room,?_,?_⟩
  · rw [copies,bind_some (ioPush_run available fits),bind_some cleared,bind_some touched,bind_some read,bind_some filled,
      List.range_eq_range',bind_some looped]
    rfl
  · rw [recorded_.io,cursors,aligned]
  · rw [recorded_.memory,block,cursors]
    rfl

theorem extended_of_copied (cursors : Cursors region s.io) (whole : sizeSize ∣ s.io.offsetsCur-s.io.offsetsBase) {t : State}
    (copied : Copied s t (Wire.padded (used s.memory src))
      ((entries s.memory src).map (· + UInt64.ofNat (s.io.bufferCur-s.io.bufferBase)))) : Extended s src t := by
  have bytes := used_copied copied cursors
  refine ⟨bytes,?_,entries_copied copied cursors whole⟩
  rw [bytes]
  exact readsOn_append _ _

theorem ipcIoAppend_early (available : ipcIoAvailable s.io = true) (available' : ipcIoAvailable src = true)
    (early : src.bufferCur-src.bufferBase = 0 ∨ s.io.bufferLeft < src.bufferCur-src.bufferBase ∨ s.io.offsetsLeft < usedOffsetsNum src) :
    ipcIoAppend platform src s = (none,s) ∨
      ipcIoAppend platform src s = (some (),s) ∧ src.bufferCur-src.bufferBase = 0 ∧ usedOffsetsNum src = 0 := by
  have seen : observe State.io s = (some s.io,s) := rfl
  rw [ipcIoAppend,bind_some seen]
  dsimp only
  rw [if_neg (by simp [available,available'])]
  rw [usedOffsetsNum] at early ⊢
  split
  · exact .inl rfl
  · rename_i bytes
    split
    · exact .inl rfl
    · rename_i room
      have none_ : src.bufferCur-src.bufferBase = 0 := by omega
      rw [if_neg (by omega)]
      exact .inr ⟨rfl,none_,by omega⟩

theorem exact_of_nothing (cursors : Cursors region s.io) (whole : sizeSize ∣ s.io.offsetsCur-s.io.offsetsBase)
    (bytes : src.bufferCur-src.bufferBase = 0) (offsets : usedOffsetsNum src = 0) : Extended s src s := by
  have none_ : Wire.padded (used s.memory src) = [] := by
    have empty : s.memory.readBytes src.bufferBase 0 = [] := rfl
    rw [used,bytes,empty]
    rfl
  have untabled : entries s.memory src = [] := by
    rw [entries,offsets]
    rfl
  apply extended_of_copied cursors whole
  rw [none_,untabled]
  exact ⟨Nat.zero_le _,Nat.zero_le _,rfl,by rw [Memory.writeBytes_nil]; exact (Memory.writeBytes_nil _ _).symm⟩

/-- `IpcIoAppend` on two `IpcIo` that are available. The bytes it takes over are rounded up to a multiple of 4, and where these do not fit
although the bytes themselves do, or the block is not filled, it returns false with the destination changed; everywhere else it returns
true with the bytes and the shifted entries of the source behind those that were there, or false with nothing changed. -/
theorem append_exact_iff (platform : Platform) {region other : Region} {s : State} {src : IpcIo} (cursors : Cursors region s.io)
    (source : Cursors other src) (whole : sizeSize ∣ s.io.offsetsCur-s.io.offsetsBase) (apart : Apart s.io src)
    (available : ipcIoAvailable s.io = true) (available' : ipcIoAvailable src = true) :
    Exact platform src s ↔ Fits platform s.io src := by
  by_cases early : src.bufferCur-src.bufferBase = 0 ∨ s.io.bufferLeft < src.bufferCur-src.bufferBase ∨
      s.io.offsetsLeft < usedOffsetsNum src
  · have fits : Fits platform s.io src := by
      rcases early with none_ | crowded | full
      · exact .inl none_
      · exact .inr (.inl crowded)
      · exact .inr (.inr (.inl full))
    refine iff_of_true ?_ fits
    rcases @ipcIoAppend_early platform _ _ available available' early with refused | ⟨ran,bytes,offsets⟩
    · rw [Exact,refused]
      exact ⟨(fun absent => by cases absent),fun _ => ⟨rfl,rfl⟩⟩
    · rw [Exact,ran]
      exact ⟨fun _ => exact_of_nothing cursors whole bytes offsets,fun absent => by cases absent⟩
  · generalize size_ : src.bufferCur-src.bufferBase = size at early
    have goes := @ipcIoAppend_copies platform _ _ _ available available' size_ (by omega) (by omega) (by omega)
    have small : size < 2^63 := by
      have base := source.base
      have stop := source.stop
      have bound := other.small
      omega
    by_cases filled : ioAlign size ≤ s.io.bufferLeft ∧ platform.memsetS (ioAlign size) (ioAlign size) = .done ∧
        platform.memcpyS (ioAlign size) size = .done
    · obtain ⟨t,ran,copied⟩ := copies_done apart size_ small available filled.1 filled.2.1 filled.2.2 (by omega)
      refine iff_of_true ?_ (by rw [Fits,size_]; exact .inr (.inr (.inr filled)))
      rw [Exact,goes,ran]
      exact ⟨fun _ => extended_of_copied cursors whole copied,fun absent => by cases absent⟩
    · obtain ⟨t,ran,flag⟩ := copies_failed s.io src available filled
      refine iff_of_false ?_ ?_
      · rw [Exact,goes,ran]
        intro exact_
        have clean : s.io.overflow = false := by
          simp only [ipcIoAvailable,Bool.and_eq_true,Bool.not_eq_true'] at available
          exact available.2
        rw [(exact_.2 rfl).1,clean] at flag
        cases flag
      · rw [Fits,size_]
        intro fits
        rcases fits with none_ | crowded | full | fits
        · exact early (.inl none_)
        · exact early (.inr (.inl crowded))
        · exact early (.inr (.inr full))
        · exact filled fits

end Append

section Samples

/-- A destination set up over `left` bytes behind one offset. -/
def sampleDestination (left : Nat) : State := ⟨fun _ => 0,⟨4104,4096,4104,4096,left,1,true,false⟩,[]⟩

/-- A source set up over eight bytes behind one offset, after five writes of an unaligned `bool`. -/
def sampleSource : IpcIo := ⟨8200,8192,8205,8192,3,1,true,false⟩

def allDone : Platform := ⟨fun _ _ => .done,fun _ _ => .done,fun _ => true⟩

theorem sampleDestination_cursors {left : Nat} (small : left < 2^63) :
    Cursors ⟨4104,left,4096,1,.inr (by decide),small⟩ (sampleDestination left).io :=
  ⟨rfl,le_rfl,le_rfl,rfl,le_rfl,le_rfl⟩

theorem sampleSource_cursors : Cursors ⟨8200,8,8192,1,.inr (by decide),by decide⟩ sampleSource :=
  ⟨rfl,by decide,by decide,rfl,by decide,by decide⟩

theorem sample_apart {left : Nat} (short : left ≤ maxIoSize-4104) : Apart (sampleDestination left).io sampleSource := by
  intro x inUse free
  simp only [InUse,Free,sampleSource,sampleDestination,maxIoSize,sizeSize] at inUse free short
  omega

/-- A destination over 64 bytes behind two offsets, after the writes of an `int32_t` and of an object. -/
def filledDestination : State := ⟨fun _ => 0,⟨4112,4096,4140,4104,36,1,true,false⟩,[]⟩

/-- A source over 32 bytes behind one offset, after the write of an object. -/
def objectSource : IpcIo := ⟨8200,8192,8224,8200,8,0,true,false⟩

theorem append_exact_iff_sample :
    (ipcIoAppend allDone objectSource filledDestination).1 = some () ∧ Exact allDone objectSource filledDestination := by
  have cursors : Cursors ⟨4112,64,4096,2,.inr (by decide),by decide⟩ filledDestination.io :=
    ⟨rfl,by decide,by decide,rfl,by decide,by decide⟩
  have source : Cursors ⟨8200,32,8192,1,.inr (by decide),by decide⟩ objectSource := ⟨rfl,by decide,by decide,rfl,by decide,by decide⟩
  have apart : Apart filledDestination.io objectSource := by
    intro x inUse free
    simp only [InUse,Free,objectSource,filledDestination,sizeSize] at inUse free
    omega
  exact ⟨by decide +kernel,(append_exact_iff allDone cursors source (by decide) apart rfl rfl).mpr
    (.inr (.inr (.inr ⟨by decide,rfl,rfl⟩)))⟩

/-- Five bytes fit into six, but not the eight that are taken for them. -/
theorem append_left_overflowed : ∃ (region other : Region) (s : State) (src : IpcIo), Cursors region s.io ∧ Cursors other src ∧
    sizeSize ∣ s.io.offsetsCur-s.io.offsetsBase ∧ Apart s.io src ∧ ipcIoAvailable s.io = true ∧ ipcIoAvailable src = true ∧
    ¬ Exact allDone src s := by
  refine ⟨_,_,sampleDestination 6,sampleSource,sampleDestination_cursors (by decide),sampleSource_cursors,by decide,
    sample_apart (by decide),rfl,rfl,?_⟩
  intro exact_
  have flag : (ipcIoAppend allDone sampleSource (sampleDestination 6)).2.io.overflow = true := by decide
  rw [(exact_.2 (by decide)).1] at flag
  cases flag

end Samples

end CommunicationIpc.SerializerAppend
