import CommunicationIpc.ObjectReads
import CommunicationIpc.SerializerRoundTrip

/-! Texts read from a received `IpcIo`. The sender has chosen the length and the characters; `ReadString16` and `ReadInterfaceToken` look
whether a zero stands behind the characters, `ReadString` only takes the byte where it would be. -/
namespace CommunicationIpc.SerializerStrings
open CommunicationIpc.Library CommunicationIpc.Library.Program CommunicationIpc.Kernel.Serializer
open CommunicationIpc.SerializerCursor
open CommunicationIpc.SerializerRoundTrip (moved ioPop_run ioPop_some_iff)
open CommunicationIpc.ObjectReads (Read received quiet_readString load_run)

/-- Elements 0 to `block.2` of a text lie in the data area, and the last of them is zero. -/
structure Terminated (region : Region) (memory : Memory) (α : Type) [Word α] (block : Nat × Nat) : Prop where
  inside : region.Room block.1 ((block.2+1)*Word.width α)
  zero : Word.bits (memory.load α (block.1+block.2*Word.width α)) = 0

/-- A text that the read returns is terminated. -/
def Shows (region : Region) (s : State) : Read → Prop
  | .plain .string => ∀ block t, readString s = (some block,t) → Terminated region t.memory UInt8 block
  | .plain .string16 => ∀ block t, readString16 s = (some block,t) → Terminated region t.memory UInt16 block
  | .plain .interfaceToken => ∀ block t, readInterfaceToken s = (some block,t) → Terminated region t.memory UInt16 block
  | _ => True

/-- The length at the read position. -/
def announced (s : State) : Nat := (s.memory.load UInt32 s.io.bufferCur).toNat

/-- There is a length, not too large, and behind it are that many bytes and one more. -/
def Whole (s : State) : Prop :=
  ipcIoAvailable s.io = true ∧ 4 ≤ s.io.bufferLeft ∧ announced s ≤ maxIoSize ∧ ioAlign (announced s+1) ≤ s.io.bufferLeft-4

/-- Of the reads only `ReadString` asks for something: where it does not refuse, a zero behind the characters. -/
def met (s : State) : Read → Prop
  | .plain .string => Whole s → s.memory (s.io.bufferCur+4+announced s) = 0
  | _ => True

def step (platform : Platform) (s : State) (read : Read) : State := (read.run platform s).2

section Reads
variable {region : Region} {s t : State}

theorem readUint32_success {value : UInt32} (done : readUint32 s = (some value,t)) :
    ipcIoAvailable s.io = true ∧ 4 ≤ s.io.bufferLeft ∧ value = s.memory.load UInt32 s.io.bufferCur ∧ t.io = moved s.io 4 ∧
      t.memory = s.memory := by
  obtain ⟨ptr,u,popped,next⟩ := bind_success done
  obtain ⟨available,fits,rfl,rfl⟩ := ioPop_some_iff.mp popped
  rw [load_run] at next
  cases next
  exact ⟨available,fits,rfl,rfl,rfl⟩

theorem readUint32_run (available : ipcIoAvailable s.io = true) (fits : 4 ≤ s.io.bufferLeft) :
    ∃ t, readUint32 s = (some (s.memory.load UInt32 s.io.bufferCur),t) ∧ t.io = moved s.io 4 ∧ t.memory = s.memory := by
  have popped : ioPop (Word.width UInt32) s = _ := ioPop_run available fits
  exact ⟨_,(bind_some popped).trans (load_run UInt32 _ _),rfl,rfl⟩

theorem readString_success {block : Nat × Nat} (done : readString s = (some block,t)) :
    Whole s ∧ block = (s.io.bufferCur+4,announced s) ∧ t.memory = s.memory := by
  obtain ⟨value,u,read,next⟩ := bind_success done
  obtain ⟨available,fits,rfl,io,memory⟩ := readUint32_success read
  split at next
  · cases next
  · rename_i short
    obtain ⟨ptr,v,popped,last⟩ := bind_success next
    obtain ⟨-,room,rfl,rfl⟩ := ioPop_some_iff.mp popped
    cases last
    rw [io] at room ⊢
    exact ⟨⟨available,fits,Nat.le_of_not_lt short,room⟩,rfl,memory⟩

theorem readString_run (whole : Whole s) :
    ∃ t, readString s = (some (s.io.bufferCur+4,announced s),t) ∧ t.memory = s.memory := by
  obtain ⟨available,fits,short,room⟩ := whole
  obtain ⟨u,read,io,memory⟩ := readUint32_run available fits
  have available' : ipcIoAvailable u.io = true := by rw [io]; exact available
  have popped : ioPop (announced s+1) u = _ := ioPop_run available' (by rw [io]; exact room)
  refine ⟨{ u with io := moved u.io (ioAlign (announced s+1)) },?_,memory⟩
  rw [readString,bind_some read,if_neg (show ¬ (s.memory.load UInt32 s.io.bufferCur).toNat > maxIoSize from Nat.not_lt.mpr short)]
  refine (bind_some popped).trans ?_
  rw [io]
  rfl

theorem room_behind (cursors : Cursors region s.io) {offset size : Nat} (fits : offset+size ≤ s.io.bufferLeft) :
    region.Room (s.io.bufferCur+offset) size := by
  have base := cursors.base
  have start := cursors.start
  have stop := cursors.stop
  exact ⟨by omega,by omega⟩

theorem readString_shows_iff (cursors : Cursors region s.io) :
    (∀ block t, readString s = (some block,t) → Terminated region t.memory UInt8 block) ↔
      (Whole s → s.memory (s.io.bufferCur+4+announced s) = 0) := by
  have byte : ∀ address, Word.bits (s.memory.load UInt8 address) = 0 ↔ s.memory address = 0 := by
    intro address
    have read : s.memory.read address (Word.width UInt8) = (s.memory address).toNat := by
      simp [Memory.read,Memory.readBytes,Word.width,ofLE]
    rw [Memory.load,read]
    show (UInt8.ofNat (s.memory address).toNat).toNat = 0 ↔ _
    rw [UInt8.ofNat_toNat,← UInt8.toNat_inj]
    rfl
  constructor
  · intro all whole
    obtain ⟨t,ran,memory⟩ := readString_run whole
    have zero := (all _ t ran).zero
    rw [memory] at zero
    exact (byte _).mp ((Nat.mul_one (announced s)).symm ▸ zero)
  · intro ends block t ran
    obtain ⟨whole,rfl,memory⟩ := readString_success ran
    have fits := le_ioAlign (show announced s+1 < 2^63 by
      have short := whole.2.2.1
      unfold maxIoSize at short
      omega)
    have room := whole.2.2.2
    have most := whole.2.1
    refine ⟨room_behind cursors (by show 4+(announced s+1)*1 ≤ _; omega),?_⟩
    rw [memory]
    exact (byte _).mpr ((Nat.mul_one (announced s)).symm ▸ ends whole)

theorem readString16_terminated (cursors : Cursors region s.io) {block : Nat × Nat} (done : readString16 s = (some block,t)) :
    Terminated region t.memory UInt16 block := by
  obtain ⟨len,u,read,next⟩ := bind_success done
  obtain ⟨available,fits,-,io,memory⟩ := readUint32_success read
  split at next
  · cases next
  · rename_i short
    obtain ⟨ptr,v,popped,looks⟩ := bind_success next
    obtain ⟨-,room,rfl,rfl⟩ := ioPop_some_iff.mp popped
    obtain ⟨last,w,loaded,ends⟩ := bind_success looks
    rw [load_run] at loaded
    cases loaded
    split at ends
    · rename_i zero
      cases ends
      rw [io] at room
      have aligned := le_ioAlign (show (len.toNat+1)*2 < 2^63 by
        unfold maxIoSize at short
        omega)
      have left : (moved s.io 4).bufferLeft = s.io.bufferLeft-4 := rfl
      refine ⟨?_,?_⟩
      · rw [io]
        exact room_behind cursors (by show 4+(len.toNat+1)*2 ≤ _; omega)
      · show Word.bits (u.memory.load UInt16 _) = 0
        have same : u.memory.load UInt16 (u.io.bufferCur+len.toNat*Word.width UInt16) = 0 := zero
        rw [same]
        rfl
    · cases ends

theorem shows_iff_met (cursors : Cursors region s.io) (read : Read) : Shows region s read ↔ met s read := by
  cases read with
  | plain kind =>
    cases kind with
    | string => exact readString_shows_iff cursors
    | string16 | interfaceToken => exact iff_of_true (fun _ _ done => readString16_terminated cursors done) trivial
    | _ => exact Iff.rfl
  | remoteObject svc => exact Iff.rfl
  | fileDescriptor => exact Iff.rfl

theorem safe_reading (platform : Platform) (read : Read) : Safe region (fun _ => False) any (read.run platform) ended := by
  cases read with
  | plain kind => exact (safe_read kind).bind fun _ _ => .pure trivial
  | remoteObject svc => exact (safe_readRemoteObject svc).bind fun _ _ => .pure trivial
  | fileDescriptor => exact safe_readFileDescriptor.bind fun _ _ => .pure trivial

/-- Every text that the reads of a received `IpcIo` return is terminated inside the data area if and only if `ReadString` is only called
where it refuses, or where the sender has put a zero behind the characters it announces. `ReadString16` and `ReadInterfaceToken` may be
called anywhere. -/
theorem strings_terminated_iff (platform : Platform) (region : Region) (memory : Memory) (reads : List Read) :
    (∀ front read, front ++ [read] <+: reads → Shows region (front.foldl (step platform) (received region memory)) read) ↔
      Reaches (guarded (does (step platform)) met) (received region memory) reads
        (reads.foldl (step platform) (received region memory)) :=
  @Reaches.guarded_iff_shown _ _ (step platform) met (Shows region) (fun s => Cursors region s.io) _ (Started.received region).cursors
    (fun _ read cursors => (safe_reading platform read).cursors cursors) (fun _ read cursors => shows_iff_met cursors read) reads

/-- The length 3, and four characters behind it. -/
def sampleText : Memory := (((Memory.ofBytes []).store 4096 (3 : UInt32)).writeBytes 4100 [97,97,97,97])

theorem string_without_end : ∃ region : Region, (readString (received region sampleText)).1 = some (4100,3) ∧
    sampleText (4100+3) = 97 ∧ ¬ Shows region (received region sampleText) (.plain .string) := by
  refine ⟨⟨4096,8,0,0,.inr (by decide),by decide⟩,by decide +kernel,by decide,?_⟩
  intro shows_
  have ends := (readString_shows_iff (Started.received _).cursors).mp shows_
  have whole : Whole (received ⟨4096,8,0,0,.inr (by decide),by decide⟩ sampleText) := by
    unfold Whole
    decide +kernel
  have zero := ends whole
  revert zero
  decide +kernel

end Reads

end CommunicationIpc.SerializerStrings
