import CommunicationIpc.Kernel.SerializerSizes
import CommunicationIpc.ObjectReads
import CommunicationIpc.SerializerRoundTrip

/-! How much a pointer stands for that the serializer returns for a size. `IPC_IO_ALIGN` adds before it masks, so that the three largest
sizes are rounded to 0, and `ReadRawData` compares only 32 bits of the size with the length that was sent. -/
namespace CommunicationIpc.GrantedRegions
open CommunicationIpc.Library CommunicationIpc.Library.Program CommunicationIpc.Kernel.SerializerSizes
open CommunicationIpc.Kernel.Serializer (State Io IpcIo ipcIoAvailable advance overflows)
open CommunicationIpc.SerializerRoundTrip (moved)
open CommunicationIpc.SerializerCursor (Region Cursors take_some_iff)
open CommunicationIpc.ObjectReads (load_run)

/-- Of the cursor invariant what concerns the data: the region is behind a pointer, and the cursor and what is left are inside. -/
structure Placed (start stop : Nat) (io : IpcIo) : Prop where
  some_ : start ≠ 0
  low : start ≤ io.bufferCur
  high : io.bufferCur+io.bufferLeft ≤ stop

theorem placed_of_cursors {region : Region} {io : IpcIo} (cursors : Cursors region io) (some_ : region.data ≠ 0) :
    Placed region.data (region.data+region.dataSize) io := ⟨some_,cursors.base ▸ cursors.start,cursors.stop⟩

section Requests
variable {build : Build}

/-- The region behind a pointer that is returned, and the way of the cursor, are as large as the size. -/
def AsRequested (start stop : Nat) (call : Take) (size : SizeT build) (s : State) : Prop :=
  ∀ ptr t, call.run size s = (some ptr,t) → ptr ≠ 0 →
    start ≤ ptr ∧ ptr+size.toNat ≤ stop ∧ s.io.bufferCur+size.toNat ≤ t.io.bufferCur

/-- Rounding up stays below the largest `size_t`. -/
def Rounds (size : SizeT build) : Prop := size.toNat+3 < 2^build.width

/-- The length at the read position. -/
def announced (s : State) : UInt32 := s.memory.load UInt32 s.io.bufferCur

/-- The length as a size of the build. -/
def sized (build : Build) (len : UInt32) : SizeT build := BitVec.ofNat _ len.toNat

/-- `ReadRawData` finds the low half of the size as the length, not zero, and so much behind it. -/
def Sent (size : SizeT build) (s : State) : Prop :=
  ipcIoAvailable s.io = true ∧ 4 ≤ s.io.bufferLeft ∧ announced s = UInt32.ofNat size.toNat ∧ announced s ≠ 0 ∧
    (ioAlign (sized build (announced s))).toNat ≤ s.io.bufferLeft-4

def met (size : SizeT build) (s : State) : Take → Prop
  | .ioPush | .ioPop | .readBuffer => ipcIoAvailable s.io = true → Rounds size
  | .ioPushUnaligned | .ioPopUnaligned => True
  | .readRawData => Sent size s → size.toNat < 2^32 ∧ Rounds size

theorem mask_parts {width : Nat} (value mask : BitVec width) : (value &&& ~~~mask).toNat+(value &&& mask).toNat = value.toNat := by
  have apart : (value &&& ~~~mask) &&& (value &&& mask) = 0 := by
    ext i inside
    simp only [BitVec.getElem_and,BitVec.getElem_not]
    cases value[i] <;> cases mask[i] <;> simp
  have joined : (value &&& ~~~mask) ||| (value &&& mask) = value := by
    ext i inside
    simp only [BitVec.getElem_or,BitVec.getElem_and,BitVec.getElem_not]
    cases value[i] <;> cases mask[i] <;> rfl
  rw [← BitVec.toNat_add_of_and_eq_zero apart,BitVec.add_eq_or_of_and_eq_zero _ _ apart,joined]

theorem two_pow_width : 2^32 ≤ 2^build.width := by cases build <;> decide

/-- The sum wraps before it is masked. -/
theorem toNat_ioAlign (size : SizeT build) : (ioAlign size).toNat = (size.toNat+3) % 2^build.width/4*4 := by
  have parts := mask_parts (size+BitVec.ofNat _ 4-1) (BitVec.ofNat build.width 3)
  have sum : (size+BitVec.ofNat _ 4-1).toNat = (size.toNat+3) % 2^build.width := by
    have four : BitVec.ofNat build.width 4 = BitVec.ofNat _ 3+1 := BitVec.ofNat_add 3 1
    rw [four,← BitVec.add_assoc,BitVec.add_sub_cancel,BitVec.toNat_add,BitVec.toNat_ofNat,Nat.add_mod_mod]
  have low : ((size+BitVec.ofNat _ 4-1) &&& BitVec.ofNat build.width 3).toNat = (size+BitVec.ofNat _ 4-1).toNat % 4 := by
    have wide : 3 < 2^build.width := lt_of_lt_of_le (by decide) two_pow_width
    rw [BitVec.toNat_and,BitVec.toNat_ofNat,Nat.mod_eq_of_lt wide]
    exact Nat.and_two_pow_sub_one_eq_mod _ 2
  have whole : (ioAlign size).toNat+(size+BitVec.ofNat _ 4-1).toNat % 4 = (size+BitVec.ofNat _ 4-1).toNat := by
    rw [← low]
    exact parts
  omega

theorem toNat_ioAlign_of_rounds {size : SizeT build} (rounds : Rounds size) : (ioAlign size).toNat = (size.toNat+3)/4*4 := by
  rw [toNat_ioAlign,Nat.mod_eq_of_lt rounds]

theorem toNat_ioAlign_of_wraps {size : SizeT build} (wraps : ¬ Rounds size) : (ioAlign size).toNat = 0 := by
  have small := size.isLt
  rw [Rounds] at wraps
  have wide : 2^32 ≤ 2^build.width := two_pow_width
  have rest : (size.toNat+3) % 2^build.width = size.toNat+3-2^build.width := by
    rw [Nat.mod_eq_sub_mod (by omega),Nat.mod_eq_of_lt (by omega)]
  rw [toNat_ioAlign,rest]
  omega

theorem toNat_ioAlign_le (size : SizeT build) : (ioAlign size).toNat ≤ size.toNat+3 := by
  rw [toNat_ioAlign]
  exact (Nat.div_mul_le_self _ _).trans (Nat.mod_le _ _)

theorem toNat_sized (len : UInt32) : (sized build len).toNat = len.toNat :=
  Nat.mod_eq_of_lt (lt_of_lt_of_le len.toNat_lt two_pow_width)

/-! In a build of 64 bits these are the functions of `Serializer`. -/

theorem toNat_ioAlign_bits64 (size : SizeT .bits64) : (ioAlign size).toNat = Kernel.Serializer.ioAlign size.toNat := toNat_ioAlign size

theorem ioPush_bits64 (size : SizeT .bits64) : ioPush size = Kernel.Serializer.ioPush size.toNat := by
  unfold ioPush Kernel.Serializer.ioPush
  rw [toNat_ioAlign_bits64]

theorem ioPop_bits64 (size : SizeT .bits64) : ioPop size = Kernel.Serializer.ioPop size.toNat := by
  unfold ioPop Kernel.Serializer.ioPop
  rw [toNat_ioAlign_bits64]

theorem ioPushUnaligned_bits64 (size : SizeT .bits64) : ioPushUnaligned size = Kernel.Serializer.ioPushUnaligned size.toNat := rfl

theorem ioPopUnaligned_bits64 (size : SizeT .bits64) : ioPopUnaligned size = Kernel.Serializer.ioPopUnaligned size.toNat := rfl

theorem eq_zero_iff {size : SizeT .bits64} {wide : UInt64} (same : size.toNat = wide.toNat) : size = 0 ↔ wide = 0 := by
  rw [← BitVec.toNat_inj,same,← UInt64.toNat_inj]
  rfl

theorem readBuffer_bits64 {size : SizeT .bits64} {wide : UInt64} (same : size.toNat = wide.toNat) :
    readBuffer size = Prod.fst <$> Kernel.Serializer.readBuffer wide := by
  unfold readBuffer Kernel.Serializer.readBuffer
  by_cases empty : size = 0
  · rw [if_pos empty,if_pos ((eq_zero_iff same).mp empty)]
    rfl
  · have filled := mt (eq_zero_iff same).mpr empty
    rw [if_neg empty,if_neg filled,ioPop_bits64,same]
    simp only [map_bind,map_pure,bind_pure]

theorem readUint32_bits64 : readUint32 .bits64 = Kernel.Serializer.readUint32 := by
  unfold readUint32
  rw [ioPop_bits64]
  rfl

theorem readRawData_bits64 {size : SizeT .bits64} {wide : UInt64} (same : size.toNat = wide.toNat) :
    readRawData size = Prod.fst <$> Kernel.Serializer.readRawData wide := by
  unfold readRawData Kernel.Serializer.readRawData
  by_cases empty : size = 0
  · rw [if_pos empty,if_pos ((eq_zero_iff same).mp empty)]
    rfl
  · have filled := mt (eq_zero_iff same).mpr empty
    rw [if_neg empty,if_neg filled,readUint32_bits64,same,map_bind]
    congr 1
    funext len
    rw [UInt32.ofNat_uInt64ToNat]
    split
    · rfl
    · exact readBuffer_bits64 (toNat_sized _)

variable {start stop : Nat} {s : State}

theorem ioPush_some_iff {size : SizeT build} {ptr : Nat} {t : State} : ioPush size s = (some ptr,t) ↔
    ipcIoAvailable s.io = true ∧ (ioAlign size).toNat ≤ s.io.bufferLeft ∧ ptr = s.io.bufferCur ∧
      t = { s with io := moved s.io (ioAlign size).toNat } := take_some_iff fun _ => rfl

theorem ioPop_some_iff {size : SizeT build} {ptr : Nat} {t : State} : ioPop size s = (some ptr,t) ↔
    ipcIoAvailable s.io = true ∧ (ioAlign size).toNat ≤ s.io.bufferLeft ∧ ptr = s.io.bufferCur ∧
      t = { s with io := moved s.io (ioAlign size).toNat } := take_some_iff fun _ => rfl

/-- A call that takes the size rounded up. -/
theorem aligned_iff (placed : Placed start stop s.io) {size : SizeT build} {take : Io Nat}
    (takes : ∀ ptr t, take s = (some ptr,t) ↔ ipcIoAvailable s.io = true ∧ (ioAlign size).toNat ≤ s.io.bufferLeft ∧
      ptr = s.io.bufferCur ∧ t = { s with io := moved s.io (ioAlign size).toNat }) :
    (∀ ptr t, take s = (some ptr,t) → ptr ≠ 0 → start ≤ ptr ∧ ptr+size.toNat ≤ stop ∧ s.io.bufferCur+size.toNat ≤ t.io.bufferCur) ↔
      (ipcIoAvailable s.io = true → Rounds size) := by
  have some_ := placed.some_
  have low := placed.low
  have high := placed.high
  constructor
  · intro all available
    by_contra wraps
    have zero := toNat_ioAlign_of_wraps wraps
    obtain ⟨-,-,moves⟩ := all _ _ ((takes _ _).mpr ⟨available,by rw [zero]; exact Nat.zero_le _,rfl,rfl⟩) (by omega)
    simp only [moved] at moves
    rw [Rounds] at wraps
    have wide : 2^32 ≤ 2^build.width := two_pow_width
    omega
  · intro rounds ptr t ran _
    obtain ⟨available,fits,rfl,rfl⟩ := (takes ptr t).mp ran
    have aligned := toNat_ioAlign_of_rounds (rounds available)
    simp only [moved]
    omega

theorem unaligned_granted (placed : Placed start stop s.io) {size ptr : Nat} {t : State}
    (taken : ipcIoAvailable s.io = true ∧ size ≤ s.io.bufferLeft ∧ ptr = s.io.bufferCur ∧ t = { s with io := moved s.io size }) :
    start ≤ ptr ∧ ptr+size ≤ stop ∧ s.io.bufferCur+size ≤ t.io.bufferCur := by
  obtain ⟨-,fits,rfl,rfl⟩ := taken
  have low := placed.low
  have high := placed.high
  simp only [moved]
  omega

theorem readBuffer_some_iff {size : SizeT build} {ptr : Nat} {t : State} : readBuffer size s = (some ptr,t) ↔
    size ≠ 0 ∧ ipcIoAvailable s.io = true ∧ (ioAlign size).toNat ≤ s.io.bufferLeft ∧ ptr = s.io.bufferCur ∧
      t = { s with io := moved s.io (ioAlign size).toNat } := by
  by_cases empty : size = 0
  · rw [readBuffer,if_pos empty]
    exact ⟨(fun done => by cases done),fun held => absurd empty held.1⟩
  · rw [readBuffer,if_neg empty,ioPop_some_iff]
    exact ⟨fun held => ⟨empty,held⟩,And.right⟩

theorem toNat_ioAlign_four : (@ioAlign build (BitVec.ofNat _ 4)).toNat = 4 := by cases build <;> rfl

theorem readUint32_run (available : ipcIoAvailable s.io = true) (fits : 4 ≤ s.io.bufferLeft) :
    ∃ t, readUint32 build s = (some (announced s),t) ∧ t.io = moved s.io 4 := by
  have popped : @ioPop build (BitVec.ofNat _ 4) s = (some s.io.bufferCur,{ s with io := moved s.io 4 }) :=
    ioPop_some_iff.mpr ⟨available,by rw [toNat_ioAlign_four]; exact fits,rfl,by rw [toNat_ioAlign_four]⟩
  exact ⟨_,(bind_some popped).trans (load_run UInt32 _ _),rfl⟩

theorem readUint32_success {value : UInt32} {t : State} (done : readUint32 build s = (some value,t)) :
    ipcIoAvailable s.io = true ∧ 4 ≤ s.io.bufferLeft ∧ value = announced s ∧ t.io = moved s.io 4 := by
  obtain ⟨ptr,u,popped,next⟩ := bind_success done
  obtain ⟨available,fits,rfl,rfl⟩ := ioPop_some_iff.mp popped
  rw [toNat_ioAlign_four] at fits
  rw [load_run,toNat_ioAlign_four] at next
  cases next
  exact ⟨available,fits,rfl,rfl⟩

theorem sized_ne_zero {len : UInt32} (some_ : len ≠ 0) : sized build len ≠ 0 := by
  intro zero
  have same : (sized build len).toNat = 0 := by rw [zero]; rfl
  rw [toNat_sized] at same
  exact some_ (UInt32.toNat_inj.mp same)

theorem readRawData_success {size : SizeT build} {ptr : Nat} {t : State} (done : readRawData size s = (some ptr,t)) :
    Sent size s ∧ ptr = s.io.bufferCur+4 ∧ t.io = moved (moved s.io 4) (ioAlign (sized build (announced s))).toNat := by
  rw [readRawData] at done
  split at done
  · cases done
  rename_i some_
  obtain ⟨len,u,read,next⟩ := bind_success done
  split at next
  · cases next
  rename_i same
  obtain ⟨filled,-,room,rfl,rfl⟩ := readBuffer_some_iff.mp next
  cases ran : readUint32 build s with
  | mk outcome v =>
    rw [attempt,ran] at read
    cases read
    cases outcome with
    | none => exact absurd rfl filled
    | some value =>
      obtain ⟨available,fits,rfl,io⟩ := readUint32_success ran
      rw [io] at room ⊢
      exact ⟨⟨available,fits,not_ne_iff.mp same,fun zero => filled (by rw [zero]; rfl),room⟩,rfl,rfl⟩

theorem readRawData_run {size : SizeT build} (sent : Sent size s) : ∃ t, readRawData size s = (some (s.io.bufferCur+4),t) := by
  obtain ⟨available,fits,same,filled,room⟩ := sent
  obtain ⟨u,read,io⟩ := @readUint32_run build s available fits
  have begun : attempt (readUint32 build) s = (some (some (announced s)),u) := by rw [attempt,read]
  have filled' : size ≠ 0 := by
    rintro rfl
    exact filled same
  obtain ⟨t,rest⟩ : ∃ t, readBuffer (sized build (announced s)) u = (some (s.io.bufferCur+4),t) :=
    ⟨_,readBuffer_some_iff.mpr ⟨sized_ne_zero filled,by rw [io]; exact available,by rw [io]; exact room,by rw [io]; rfl,rfl⟩⟩
  refine ⟨t,?_⟩
  have goesOn : ¬ (some (announced s)).getD 0 ≠ UInt32.ofNat size.toNat := not_not.mpr same
  rw [readRawData,if_neg filled',bind_some begun,if_neg goesOn]
  exact rest

theorem readBuffer_iff (placed : Placed start stop s.io) (size : SizeT build) :
    AsRequested start stop .readBuffer size s ↔ (ipcIoAvailable s.io = true → Rounds size) := by
  by_cases empty : size = 0
  · apply iff_of_true
    · intro ptr t ran _
      exact absurd empty (readBuffer_some_iff.mp ran).1
    · intro _
      rw [empty,Rounds]
      cases build <;> decide
  · have same : Take.run .readBuffer size = ioPop size := if_neg empty
    rw [AsRequested,same]
    exact aligned_iff placed fun _ _ => ioPop_some_iff

theorem toNat_announced {size : SizeT build} (same : announced s = UInt32.ofNat size.toNat) :
    (announced s).toNat = size.toNat % 2^32 := by
  rw [same]
  exact UInt32.toNat_ofNat'

/-- The length that is found is the whole size. -/
theorem sized_announced {size : SizeT build} (same : announced s = UInt32.ofNat size.toNat) (small : size.toNat < 2^32) :
    sized build (announced s) = size := by
  apply BitVec.eq_of_toNat_eq
  rw [toNat_sized,toNat_announced same,Nat.mod_eq_of_lt small]

theorem readRawData_iff (placed : Placed start stop s.io) (size : SizeT build) :
    AsRequested start stop .readRawData size s ↔ (Sent size s → size.toNat < 2^32 ∧ Rounds size) := by
  have low := placed.low
  have high := placed.high
  constructor
  · intro all sent
    have same := sent.2.2.1
    obtain ⟨t,ran⟩ := readRawData_run sent
    obtain ⟨-,-,moves⟩ := all _ t ran (by omega)
    obtain ⟨-,-,io⟩ := readRawData_success ran
    simp only [io,moved] at moves
    have most := toNat_ioAlign_le (sized build (announced s))
    rw [toNat_sized,toNat_announced same] at most
    have small : size.toNat < 2^32 := by omega
    refine ⟨small,?_⟩
    by_contra wraps
    rw [sized_announced same small,toNat_ioAlign_of_wraps wraps] at moves
    rw [Rounds] at wraps
    have wide : 2^32 ≤ 2^build.width := two_pow_width
    omega
  · intro enough ptr t ran _
    obtain ⟨sent,rfl,io⟩ := readRawData_success ran
    obtain ⟨small,rounds⟩ := enough sent
    obtain ⟨-,fits,same,-,room⟩ := sent
    rw [sized_announced same small,toNat_ioAlign_of_rounds rounds] at io room
    simp only [io,moved]
    omega

/-- A pointer that is returned stands for as much as was asked for, but for sizes that round up to 0 and for raw data where only the low
half of the size was sent. -/
theorem granted_as_requested_iff (call : Take) (size : SizeT build) (placed : Placed start stop s.io) :
    AsRequested start stop call size s ↔ met size s call := by
  cases call with
  | ioPush => exact aligned_iff placed fun _ _ => ioPush_some_iff
  | ioPop => exact aligned_iff placed fun _ _ => ioPop_some_iff
  | ioPushUnaligned | ioPopUnaligned =>
    refine iff_of_true ?_ trivial
    intro ptr t ran _
    exact unaligned_granted placed ((take_some_iff fun _ => rfl).mp ran)
  | readBuffer => exact readBuffer_iff placed size
  | readRawData => exact readRawData_iff placed size

end Requests

section Samples

/-- A received `IpcIo` of 64 bytes that begin with the length 4. -/
def sampleReceived : State := ⟨(Memory.ofBytes []).store 4096 (4 : UInt32),⟨4096,0,4096,0,64,0,true,false⟩,[]⟩

theorem sampleReceived_cursors : Cursors ⟨4096,64,0,0,.inr (by decide),by decide⟩ sampleReceived.io :=
  ⟨rfl,le_rfl,le_rfl,rfl,le_rfl,le_rfl⟩

theorem granted_as_requested_sample : @AsRequested .bits32 4096 4160 .readBuffer 5#32 sampleReceived :=
  (granted_as_requested_iff .readBuffer _ (placed_of_cursors sampleReceived_cursors (by decide))).mpr
    fun _ => (by decide : 5+3 < 2^32)

/-- The largest size of a build of 32 bits is rounded to 0; a build of 64 bits is asked for 2^32+4 bytes and finds the length 4. -/
theorem less_than_requested : ∃ region : Region, Cursors region sampleReceived.io ∧ region.data ≠ 0 ∧
    ¬ @AsRequested .bits32 region.data (region.data+region.dataSize) .readBuffer 0xFFFFFFFF#32 sampleReceived ∧
    ¬ @AsRequested .bits64 region.data (region.data+region.dataSize) .readRawData 0x100000004#64 sampleReceived := by
  have placed := placed_of_cursors sampleReceived_cursors (by decide)
  refine ⟨_,sampleReceived_cursors,by decide,?_,?_⟩
  · intro all
    have rounds : 0xFFFFFFFF+3 < 2^32 := (readBuffer_iff placed _).mp all rfl
    omega
  · intro all
    have sent : @Sent .bits64 0x100000004#64 sampleReceived := by
      unfold Sent
      decide +kernel
    have small := ((readRawData_iff placed _).mp all sent).1
    revert small
    decide

end Samples

end CommunicationIpc.GrantedRegions
