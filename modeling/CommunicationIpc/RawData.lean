import CommunicationIpc.Framing
import CommunicationIpc.Kernel.RawData
import CommunicationIpc.Library.Entries
import CommunicationIpc.Library.Run
import CommunicationIpc.Marshal
import CommunicationIpc.Numerals

/-! Raw data blocks from the parcel they are written to until they are read. The block is kept under a text made of the socket and
the sequence number, which no other request has, until the transaction's first descriptor object takes it. A block is lost when it
fills a package above the limit of the receiver, and cannot be read behind a small one. -/
namespace CommunicationIpc.RawData
open CommunicationIpc.Library CommunicationIpc.Kernel.Package CommunicationIpc.Kernel.Translate CommunicationIpc.Kernel.Marshal
open CommunicationIpc.Kernel.Framing CommunicationIpc.Kernel.RawData
open CommunicationIpc.Kernel.CallingIdentity (accessTokenMaxLen toString64)
open CommunicationIpc.Package CommunicationIpc.PackageBounds CommunicationIpc.SessionSlots CommunicationIpc.Framing CommunicationIpc.Numerals

section Key

theorem toString64_injective {left right : UInt64} (same : toString64 left = toString64 right) : left = right := by
  have fits : ∀ value : UInt64, value.toNat < 10^accessTokenMaxLen := fun value => value.toNat_lt.trans (by decide)
  exact UInt64.toNat_inj.mp (trimZeros_decimal_injective (fits left) (fits right) same)

theorem rawDataKey_injective {left right : Int32} {first second : UInt64} (same : rawDataKey left first = rawDataKey right second) :
    left = right ∧ first = second := by
  obtain ⟨socket,number⟩ := append_separator (toString32_not_mem left) (toString32_not_mem right) same
  exact ⟨toString32_injective socket,toString64_injective number⟩

end Key

section Parcel
variable {parcel next : RawParcel} {block : List UInt8}

/-- The attempts to write raw data to a parcel, one after another. -/
def writeAll (parcel : RawParcel) (writes : List (Option (List UInt8) × WriteResults)) : RawParcel :=
  writes.foldl (fun parcel write => (parcel.writeRawData write.1 write.2).1) parcel

/-- The parcel has a large block that was written to it. -/
def Holds (parcel : RawParcel) (block : List UInt8) : Prop :=
  parcel.rawData = none ∧ parcel.kernelMappedWrite = some block ∧ parcel.rawDataSize = block.length

theorem writeRawData_local (own : parcel.rawData = none) (data : Option (List UInt8)) (results : WriteResults) :
    (parcel.writeRawData data results).1.rawData = none := by
  rw [RawParcel.writeRawData.eq_def]
  split
  · exact own
  · dsimp only
    repeat' split
    all_goals exact own

theorem writeAll_local (own : parcel.rawData = none) (writes : List (Option (List UInt8) × WriteResults)) :
    (writeAll parcel writes).rawData = none := by
  induction writes generalizing parcel with
  | nil => exact own
  | cons write writes ih => exact ih (writeRawData_local own write.1 write.2)

theorem writeRawData_holds (own : parcel.rawData = none) {results : WriteResults}
    (accepted : parcel.writeRawData (some block) results = (next,true)) (large : minRawdataSize < block.length) :
    Holds next block ∧ block.length ≤ maxRawdataSize := by
  simp only [RawParcel.writeRawData] at accepted
  split at accepted
  · cases accepted
  rename_i sized
  split at accepted
  · cases accepted
  split at accepted
  · cases accepted
  split at accepted
  · rename_i small
    exact absurd large (Nat.not_lt.mpr small)
  split at accepted
  · cases accepted
  split at accepted
  · cases accepted
  · cases accepted
    exact ⟨⟨own,rfl,rfl⟩,Nat.le_of_not_lt fun more => sized (.inl more)⟩

theorem Holds.writeRawData (holds : Holds parcel block) (data : Option (List UInt8)) (results : WriteResults) :
    (parcel.writeRawData data results).1 = parcel := by
  rw [RawParcel.writeRawData.eq_def]
  split
  · rfl
  · dsimp only
    split
    · rfl
    · rw [holds.2.1]
      rfl

theorem Holds.writeAll (holds : Holds parcel block) (writes : List (Option (List UInt8) × WriteResults)) :
    RawData.writeAll parcel writes = parcel := by
  induction writes with
  | nil => rfl
  | cons write writes ih =>
    rw [RawData.writeAll,List.foldl_cons,holds.writeRawData]
    exact ih

theorem Holds.offered (holds : Holds parcel block) : parcel.offered = block := by
  obtain ⟨own,mapped,size⟩ := holds
  simp only [RawParcel.offered,RawParcel.getRawData,own,mapped,size]
  exact List.take_length

/-- The data parcel of a transaction, with the block that was received for it. -/
def received (stored : Option (List UInt8)) : RawParcel :=
  match stored with
  | none => .new
  | some block => (RawParcel.new.restoreRawData block).1

/-- A read of a small block that was there. -/
def Small (read : Nat × ReadResults) : Prop := 0 < read.1 ∧ read.1 ≤ minRawdataSize ∧ RawParcel.toSize read.2.readInt32 = read.1

def readAll (parcel : RawParcel) (reads : List (Nat × ReadResults)) : RawParcel :=
  reads.foldl (fun parcel read => (parcel.readRawData read.1 read.2).2) parcel

/-- A parcel with a received block: what reads can change of it. -/
structure Restored (parcel : RawParcel) (block : List UInt8) : Prop where
  rawData : parcel.rawData = some block
  writeRawDataFd : parcel.writeRawDataFd = 0

theorem Restored.readRawData (restored : Restored parcel block) (read : Nat × ReadResults) :
    Restored (parcel.readRawData read.1 read.2).2 block ∧
      (Small read → (parcel.readRawData read.1 read.2).2.rawDataSize = read.1) ∧
      (¬ Small read → (parcel.readRawData read.1 read.2).2.rawDataSize = parcel.rawDataSize) := by
  simp only [RawParcel.readRawData]
  split
  · rename_i zero
    refine ⟨restored,?_,fun _ => rfl⟩
    intro small
    exact absurd zero (Nat.ne_of_gt small.1)
  split
  · rename_i other
    exact ⟨restored,fun small => absurd small.2.2 other,fun _ => rfl⟩
  rename_i nonzero same
  rw [not_not] at same
  split
  · rename_i low
    refine ⟨⟨restored.rawData,restored.writeRawDataFd⟩,fun _ => rfl,?_⟩
    intro large
    exact absurd ⟨Nat.pos_of_ne_zero nonzero,same ▸ low,same⟩ large
  · rename_i high
    have fixed : (parcel.readRawDataInner read.1 read.2).2 = parcel := by
      rw [RawParcel.readRawDataInner,if_pos ⟨by rw [restored.rawData]; rfl,restored.writeRawDataFd⟩]
      repeat' split
      all_goals rfl
    rw [fixed]
    refine ⟨restored,?_,fun _ => rfl⟩
    intro small
    rw [same] at high
    exact absurd small.2.1 high

theorem Restored.readAll (restored : Restored parcel block) (reads : List (Nat × ReadResults)) :
    Restored (RawData.readAll parcel reads) block ∧
      ((∀ read ∈ reads, ¬ Small read) → (RawData.readAll parcel reads).rawDataSize = parcel.rawDataSize) ∧
      ((∃ read ∈ reads, Small read) → (RawData.readAll parcel reads).rawDataSize ≤ minRawdataSize) := by
  induction reads using List.reverseRecOn with
  | nil =>
    refine ⟨restored,fun _ => rfl,?_⟩
    rintro ⟨read,member,-⟩
    cases member
  | append_singleton reads read ih =>
    obtain ⟨before,without,within⟩ := ih
    obtain ⟨after,small,large⟩ := before.readRawData read
    rw [RawData.readAll,List.foldl_append]
    refine ⟨after,?_,?_⟩
    · intro none_
      refine (large (none_ read (by simp))).trans (without ?_)
      exact fun other member => none_ other (List.mem_append_left _ member)
    · rintro ⟨other,member,isSmall⟩
      by_cases last : Small read
      · exact (small last).trans_le last.2.1
      · refine (large last).trans_le (within ⟨other,?_,isSmall⟩)
        rcases List.mem_append.mp member with old | new
        · exact old
        · cases List.mem_singleton.mp new
          exact absurd isSmall last

/-- What a parcel answers to the read of a large block: its size, and an object without a descriptor. -/
def Answers (results : ReadResults) (block : List UInt8) : Prop :=
  results.readInt32 = Int32.ofNat block.length ∧ results.readFileDescriptor < 0

theorem toSize_ofNat {size : Nat} (small : size ≤ maxRawdataSize) : RawParcel.toSize (Int32.ofNat size) = size := by
  simp only [maxRawdataSize] at small
  have value : (Int32.ofNat size).toInt = size := Int32.toInt_ofNat_of_lt (by omega)
  rw [RawParcel.toSize,value]
  omega

theorem readRawData_large {size : Nat} (small : size ≤ maxRawdataSize) (large : minRawdataSize < size) {results : ReadResults}
    (answer : results.readInt32 = Int32.ofNat size) : parcel.readRawData size results = parcel.readRawDataInner size results := by
  have known : RawParcel.toSize results.readInt32 = size := by rw [answer,toSize_ofNat small]
  simp only [RawParcel.readRawData,known]
  rw [if_neg (by omega),if_neg (by simp),if_neg (Nat.not_le.mpr large)]

theorem readAll_none {reads : List (Nat × ReadResults)} (own : parcel.rawData = none) : (readAll parcel reads).rawData = none := by
  induction reads generalizing parcel with
  | nil => exact own
  | cons read reads ih =>
    refine ih ?_
    simp only [RawParcel.readRawData,RawParcel.readRawDataInner]
    repeat' split
    all_goals exact own

/-- The block is read if it was received and no small one was read before it. -/
theorem readRawData_received_iff (stored : Option (List UInt8)) (kept : ∀ other, stored = some other → other = block)
    (small : block.length ≤ maxRawdataSize) (large : minRawdataSize < block.length) (reads : List (Nat × ReadResults))
    {results : ReadResults} (answers : Answers results block) :
    ((readAll (received stored) reads).readRawData block.length results).1 = some block ↔
      stored = some block ∧ ∀ read ∈ reads, ¬ Small read := by
  obtain ⟨size,descriptor⟩ := answers
  rw [readRawData_large small large size]
  cases stored with
  | none =>
    have own : (readAll (received none) reads).rawData = none := readAll_none rfl
    rw [RawParcel.readRawDataInner,if_neg (by rw [own]; simp),if_pos descriptor]
    simp
  | some other =>
    obtain rfl := kept other rfl
    obtain ⟨restored,without,within⟩ := @Restored.readAll (received (some other)) other ⟨rfl,rfl⟩ reads
    rw [RawParcel.readRawDataInner,if_pos ⟨by rw [restored.rawData]; rfl,restored.writeRawDataFd⟩,
      if_neg (by simpa using Int32.not_le.mpr descriptor)]
    constructor
    · intro read
      refine ⟨rfl,?_⟩
      intro first member isSmall
      have less := within ⟨first,member,isSmall⟩
      rw [if_pos (by omega)] at read
      cases read
    · rintro ⟨-,none_⟩
      have same := without none_
      have whole : (received (some other)).rawDataSize = other.length := rfl
      rw [if_neg (by simp [same,whole])]
      exact restored.rawData

end Parcel

section Sender
variable {data : MessageParcel} {raw : List UInt8} {seqNumber : UInt64}

theorem decode_rawData {count : Nat} (small : headerSize+count < 2^32) (seqNumber : UInt64) :
    let tr := TransactionData.decode (constructTransData (wrap32 (headerSize+count)) seqNumber.toNat bcSendRawdata 0 0)
    tr.sizeOfSelf = headerSize+count ∧ tr.magic = dbinderMagicword ∧ tr.cmd = bcSendRawdata ∧ tr.seqNumber = seqNumber.toNat := by
  simp only [TransactionData.decode,constructTransData,wrap32]
  simp (disch := decide) only [Memory.read_write_apart,Memory.read_write]
  refine ⟨?_,rfl,rfl,Nat.mod_eq_of_lt seqNumber.toNat_lt⟩
  omega

theorem rawOf_rawDataPackage (sent : rawDataPackage data seqNumber.toNat = some raw) (small : data.rawData.length ≤ maxRawdataSize) :
    rawOf raw = some (seqNumber,data.rawData) ∧ raw.length = headerSize+data.rawData.length := by
  simp only [rawDataPackage] at sent
  split at sent
  · cases sent
  cases sent
  have fits : headerSize+data.rawData.length < 2^32 := by
    simp only [maxRawdataSize] at small
    simp only [headerSize]
    omega
  obtain ⟨size,magic,cmd,number⟩ := decode_rawData fits seqNumber
  generalize constructTransData _ _ _ _ _ = memory at *
  have width := Memory.readBytes_length memory 0 headerSize
  have same : TransactionData.decode (.ofBytes (memory.readBytes 0 headerSize ++ data.rawData)) = TransactionData.decode memory := by
    rw [decode_ofBytes_append (Nat.le_of_eq width.symm),decode_readBytes (Nat.le_refl _)]
    apply decode_congr
    intro i _
    rw [Memory.shift,Nat.zero_add]
  have length : (memory.readBytes 0 headerSize ++ data.rawData).length = headerSize+data.rawData.length := by
    rw [List.length_append,width]
  refine ⟨?_,length⟩
  simp only [rawOf]
  rw [same,length,if_pos ⟨Nat.le_add_right _ _,magic,cmd,size⟩,number,UInt64.ofNat_toNat,List.drop_left' width]

end Sender

section Translation
variable {handleOf : Session → Nat}

/-- The objects that were descriptors are the raw data objects of the receiver. -/
theorem rawObjects_packed {layout : Layout} (fits : Fits layout) (sessions : List (Option Session))
    {i preOffset preObjectSize : Nat} {receiver : Receiver} (first : i = 0 → preOffset = 0 ∧ preObjectSize = 0)
    (before : preOffset+preObjectSize ≤ layout.bufferSize) (counted : i+sessions.length ≤ layout.objCount)
    (packed : Chain Packed layout receiver.memory i preOffset preObjectSize sessions) :
    rawObjects handleOf layout sessions.length i preOffset preObjectSize receiver = sessions.countP Option.isNone := by
  induction sessions generalizing i preOffset preObjectSize receiver with
  | nil => rfl
  | cons session sessions ih =>
    obtain ⟨-,-,-,room⟩ := isValidRemoteObjectOffset_spec fits.small packed.1
    obtain ⟨next,result,-,-,chain⟩ := receiveObject_packed handleOf fits first before counted packed
    have own : (if receiver.memory.read (layout.dataBuffer+receiver.memory.read (layout.entryAddress i) binderSize) 4 =
        binderTypeFdr then 1 else 0) = if session.isNone then 1 else 0 := by
      have meets := packed.2.1
      cases session with
      | none => exact if_pos meets
      | some session =>
        refine if_neg ?_
        rw [meets.1]
        decide
    rw [List.length_cons] at counted ⊢
    have rest := ih (by omega) room (by omega) chain
    rw [objectAddress] at result
    simp only [rawObjects]
    rw [packed.1]
    simp only [result]
    rw [own,rest,List.countP_cons,Nat.add_comm]

/-- Some object of a package stands for a descriptor. -/
def Descriptor (package : Memory) : Prop :=
  let layout := layoutOf (TransactionData.decode package)
  ∃ i < layout.objCount, objectType layout package i = binderTypeFdr

/-- The bytes that are sent of a package. -/
def sentBytes (package : Memory) : List UInt8 := package.readBytes 0 (TransactionData.decode package).sizeOfSelf

theorem decode_sentBytes {package : Memory} (header : headerSize ≤ (TransactionData.decode package).sizeOfSelf) :
    TransactionData.decode (.ofBytes (sentBytes package)) = TransactionData.decode package := by
  rw [sentBytes,decode_readBytes header]
  apply decode_congr
  intro i _
  rw [Memory.shift,Nat.zero_add]

theorem sessions_of_status {tr : TransactionData} {memory : Memory} {sessions : List (Option Session)}
    (accepted : checkTransactionData tr = true) (packed : Chain Packed (layoutOf tr) memory 0 0 0 sessions)
    (some_ : 0 < sessions.length) : hasFlag tr.flags tfStatusCode = false := by
  rw [Bool.eq_false_iff]
  intro status
  have narrow : (layoutOf tr).bufferSize < flatBinderObjectSize := by
    simp only [layoutOf,(checkTransactionData_spec accepted).2.2.2.2.1 status]
    decide
  cases sessions with
  | nil => cases some_
  | cons session sessions =>
    have valid := packed.1
    rw [isValidRemoteObjectOffset_narrow narrow] at valid
    cases valid

theorem packed_copy {layout : Layout} (fits : Fits layout) {memory other : Memory} {sessions : List (Option Session)}
    (count : sessions.length = layout.objCount) {size : Nat} (covered : layout.flatOffset ≤ size)
    (same : ∀ x, x < size → memory x = other x) (packed : Chain Packed layout memory 0 0 0 sessions) :
    Chain Packed layout other 0 0 0 sessions := by
  have flat := fits.flat
  refine chain_congr packed_local fits sessions (fun _ => ⟨rfl,rfl⟩) (Nat.zero_le _) (by omega) ?_ ?_ packed
  · intro x _ high
    exact same x (by omega)
  · intro x _ high
    exact same x (by omega)

/-- What the receiver makes of the bytes of a translated package with a descriptor. -/
theorem received_of_translated {sessionOf : Nat → Nat → Nat → Nat → Option Session} {memory : Memory} {sender : Sender}
    (accepted : checkTransactionData (TransactionData.decode memory) = true)
    (sent : iRemoteObjectTranslateWhenSend sessionOf memory (layoutOf (TransactionData.decode memory)) = (true,sender))
    (descriptor : Descriptor sender.memory) :
    TransactionData.decode (.ofBytes (sentBytes sender.memory)) = TransactionData.decode sender.memory ∧
      (processTransaction handleOf (.ofBytes (sentBytes sender.memory))).1 = true ∧
      0 < rawObjects handleOf (layoutOf (TransactionData.decode sender.memory))
        (layoutOf (TransactionData.decode sender.memory)).objCount 0 0 0 ⟨.ofBytes (sentBytes sender.memory),[],[]⟩ := by
  have fits := fits_of_sent accepted sent
  obtain ⟨sessions,count,translated⟩ := sent_of_translated accepted sent
  obtain ⟨-,positive,-,covered,-,sizes⟩ := checkTransactionData_spec accepted
  have header : TransactionData.decode sender.memory = TransactionData.decode memory :=
    decode_congr (header_of_translated accepted sent)
  obtain ⟨i,inside,kind⟩ := descriptor
  rw [header] at inside kind
  have whole := sizes (sessions_of_status accepted translated.packed (by omega))
  have there : ∀ x, x < (TransactionData.decode memory).sizeOfSelf →
      sender.memory x = Memory.ofBytes (sentBytes sender.memory) x := by
    intro x low
    rw [sentBytes,header,Memory.ofBytes_readBytes low,Memory.shift,Nat.zero_add]
  have reaches : (layoutOf (TransactionData.decode memory)).flatOffset ≤ (TransactionData.decode memory).sizeOfSelf := by
    rw [fits.flat]
    simp only [layoutOf]
    omega
  have packed := packed_copy fits count reaches there translated.packed
  have decoded : TransactionData.decode (.ofBytes (sentBytes sender.memory)) = TransactionData.decode memory := by
    rw [decode_sentBytes (by rw [header]; omega),header]
  have received := @received_loop handleOf _ fits sessions 0 0 0 ⟨.ofBytes (sentBytes sender.memory),[],[]⟩ (fun _ => ⟨rfl,rfl⟩)
    (Nat.zero_le _) (by omega) packed
  have objects := @rawObjects_packed handleOf _ fits sessions 0 0 0 ⟨.ofBytes (sentBytes sender.memory),[],[]⟩ (fun _ => ⟨rfl,rfl⟩)
    (Nat.zero_le _) (by omega) packed
  rw [count] at received objects
  refine ⟨decoded.trans header.symm,?_,?_⟩
  · rw [processTransaction,decoded,if_neg (Nat.ne_of_gt positive)]
    exact received.1
  · rw [header,objects,List.countP_pos_iff]
    have inRange : i < sessions.length := by omega
    have meets := chain_get sessions translated.packed i inRange
    refine ⟨sessions[i],List.getElem_mem inRange,?_⟩
    rw [Nat.zero_add] at meets
    cases known : sessions[i] with
    | none => rfl
    | some session =>
      rw [known] at meets
      rw [objectType,meets.1] at kind
      exact absurd kind (by decide)

theorem read_zero {memory : Memory} (zero : ∀ x, headerSize ≤ x → memory x = 0) {address : Nat} (behind : headerSize ≤ address)
    (width : Nat) : memory.read address width = 0 := by
  have same : memory.read address width = Memory.read (fun _ => 0) address width :=
    Memory.read_congr fun x low _ => zero x (by omega)
  rw [same,Memory.read,Memory.readBytes,List.map_const',List.length_range]
  clear same
  induction width with
  | zero => rfl
  | succ width ih =>
    rw [List.replicate_succ,ofLE,ih]
    rfl

/-- A package without a buffer of its own is all zeros behind its header. -/
theorem not_descriptor_of_zero {package : Memory} (zero : ∀ x, headerSize ≤ x → package x = 0) : ¬ Descriptor package := by
  rintro ⟨i,-,kind⟩
  have entry : package.read ((layoutOf (TransactionData.decode package)).entryAddress i) binderSize = 0 := by
    refine read_zero zero ?_ _
    simp only [Layout.entryAddress,layoutOf]
    omega
  have type : package.read (headerSize+0) 4 = 0 := read_zero zero (Nat.le_add_right _ _) _
  rw [objectType,objectAddress,entry] at kind
  rw [layoutOf,type] at kind
  exact absurd kind (by decide)

variable {sessionOf : Nat → Nat → Nat → Nat → Option Session} {data : MessageParcel} {cookie code flags : Nat} {status : Int}
  {seqNumber : UInt64} {package : Memory}

/-- What the receiver makes of the transaction of a request with a descriptor. -/
theorem received_of_made (made : processNormalData sessionOf data cookie seqNumber.toNat bcTransaction code flags status = some package)
    (descriptor : Descriptor package) {thread : Thread} (its : thread.package = sentBytes package) :
    thread.seqNumber = seqNumber ∧ (TransactionData.decode thread.memory).cmd = bcTransaction ∧
      (processTransaction handleOf thread.memory).1 = true ∧
      0 < rawObjects handleOf (layoutOf (TransactionData.decode thread.memory))
        (layoutOf (TransactionData.decode thread.memory)).objCount 0 0 0 ⟨thread.memory,[],[]⟩ := by
  obtain ⟨cmd,number⟩ := Marshal.processNormalData_header made
  simp only [processNormalData] at made
  rcases Marshal.moveMessageParcel2TransData_cases made with ⟨removed,sender,-,accepted,sent,rfl⟩ | ⟨-,rfl⟩
  · obtain ⟨decoded,success,objects⟩ := @received_of_translated handleOf _ _ _ accepted sent descriptor
    simp only [Thread.seqNumber,Thread.memory,its]
    rw [decoded,cmd,number]
    refine ⟨?_,rfl,success,objects⟩
    have fits : seqNumber.toNat < 256^8 := seqNumber.toNat_lt
    rw [Nat.mod_eq_of_lt fits,UInt64.ofNat_toNat]
  · refine absurd descriptor (not_descriptor_of_zero ?_)
    intro x behind
    simp only [headerSize] at behind
    simp only [constructTransData]
    simp (disch := omega) only [Memory.write_outside]

/-- The package of a parcel before its objects are translated. -/
def filled (memory : Memory) (data : MessageParcel) : Memory :=
  let table := data.objectOffsets.flatMap (toLE binderSize)
  ((((memory.write 40 8 data.data.length).writeBytes headerSize data.data).writeBytes (headerSize+data.data.length) table).write 48 8
    table.length).write 56 8 data.data.length

theorem table_length (offsets : List Nat) : (offsets.flatMap (toLE binderSize)).length = offsets.length*binderSize := by
  induction offsets with
  | nil => rfl
  | cons offset offsets ih => rw [List.flatMap_cons,List.length_append,toLE_length,ih,List.length_cons,Nat.succ_mul,Nat.add_comm]

section Filled
variable {memory : Memory}

theorem decode_filled (small : data.data.length+data.objectOffsets.length*binderSize < 2^32) :
    let tr := TransactionData.decode (filled memory data)
    tr.bufferSize = data.data.length ∧ tr.offsetsSize = data.objectOffsets.length*binderSize ∧ tr.offsets = data.data.length := by
  simp only [TransactionData.decode,filled,table_length]
  refine ⟨?_,?_,?_⟩
  · rw [Memory.read_write_apart (by decide),Memory.read_write_apart (by decide),
      Memory.read_writeBytes_apart (.inl (by simp only [headerSize]; omega)),Memory.read_writeBytes_apart (.inl (by decide)),
      Memory.read_write]
    omega
  · rw [Memory.read_write_apart (by decide),Memory.read_write]
    omega
  · rw [Memory.read_write]
    omega

theorem entry_filled {i offset : Nat} (at_ : data.objectOffsets[i]? = some offset) :
    (filled memory data).read (headerSize+data.data.length+i*binderSize) binderSize = offset % 256^binderSize := by
  simp only [filled]
  rw [Memory.read_write_apart (.inr (by simp only [headerSize]; omega)),Memory.read_write_apart (.inr (by simp only [headerSize]; omega))]
  exact Memory.read_writeBytes_table _ _ _ at_

theorem object_filled {offset : Nat} (inside : offset+4 ≤ data.data.length) :
    (filled memory data).read (headerSize+offset) 4 = (Memory.ofBytes data.data).read offset 4 := by
  simp only [filled]
  rw [Memory.read_write_apart (.inr (by simp only [headerSize]; omega)),Memory.read_write_apart (.inr (by simp only [headerSize]; omega)),
    Memory.read_writeBytes_apart (.inl (by omega))]
  exact Memory.read_writeBytes_inside _ _ inside

/-- Without an object of type `BINDER_TYPE_PTR` nothing is removed. -/
theorem removeDBinderPtrData_filled (small : data.data.length+data.objectOffsets.length*binderSize < 2^32)
    (inside : ∀ offset ∈ data.objectOffsets, offset+4 ≤ data.data.length)
    (without : ∀ offset ∈ data.objectOffsets, (Memory.ofBytes data.data).read offset 4 ≠ binderTypePtr) :
    removeDBinderPtrData (filled memory data) = some (filled memory data) := by
  obtain ⟨bufferSize,offsetsSize,-⟩ := @decode_filled data memory small
  have stays : ∀ i < data.objectOffsets.length, removePtr data.objectOffsets.length i (filled memory data) = some (filled memory data) := by
    intro i counted
    have at_ : data.objectOffsets[i]? = some data.objectOffsets[i] := List.getElem?_eq_getElem counted
    have member := List.getElem_mem counted
    have room := inside _ member
    simp only [removePtr]
    have inFront : wrap64 (headerSize+data.objectOffsets[i]) = headerSize+data.objectOffsets[i] :=
      Nat.mod_eq_of_lt (by simp only [headerSize]; omega)
    rw [bufferSize,entry_filled at_,Nat.mod_eq_of_lt (by simp only [binderSize]; omega),inFront,object_filled room,
      if_pos (without _ member)]
  rw [removeDBinderPtrData,offsetsSize,Nat.mul_div_cancel _ (by decide)]
  have loop : ∀ turns : List Nat, (∀ i ∈ turns, i < data.objectOffsets.length) →
      turns.foldlM (fun memory i => removePtr data.objectOffsets.length i memory) (filled memory data) = some (filled memory data) := by
    intro turns
    induction turns with
    | nil => exact fun _ => rfl
    | cons turn turns ih =>
      intro counted
      rw [List.foldlM_cons,stays turn (counted turn List.mem_cons_self)]
      exact ih fun i member => counted i (List.mem_cons_of_mem _ member)
  exact loop _ fun i member => List.mem_range.mp member

end Filled

/-- The package of a parcel with an object that `WriteFileDescriptor` has put in, when nothing is removed from it. -/
theorem descriptor_of_parcel {seqNum cmd : Nat}
    (made : processNormalData sessionOf data cookie seqNum cmd code flags status = some package)
    (inside : ∀ offset ∈ data.objectOffsets, offset+4 ≤ data.data.length)
    (without : ∀ offset ∈ data.objectOffsets, (Memory.ofBytes data.data).read offset 4 ≠ binderTypePtr)
    (put : ∃ offset ∈ data.objectOffsets, (Memory.ofBytes data.data).read offset 4 = binderTypeFd) : Descriptor package := by
  obtain ⟨offset,member,fd⟩ := put
  have room := inside offset member
  have some_ : data.data ≠ [] := by
    intro empty
    rw [empty,List.length_nil] at room
    omega
  simp only [processNormalData] at made
  generalize (constructTransData _ _ _ _ _).write 24 8 cookie = memory at made
  simp only [moveMessageParcel2TransData] at made
  rw [if_pos some_] at made
  split at made
  · cases made
  rename_i fits
  have small : data.data.length+data.objectOffsets.length*binderSize < 2^32 := by
    rw [table_length] at fits
    simp only [wrap32] at fits
    omega
  have kept : removeDBinderPtrData (filled memory data) = some (filled memory data) := removeDBinderPtrData_filled small inside without
  obtain ⟨bufferSize,offsetsSize,offsets⟩ := @decode_filled data memory small
  obtain ⟨i,at_⟩ := List.getElem?_of_mem member
  have type : objectType (layoutOf (TransactionData.decode (filled memory data))) (filled memory data) i = binderTypeFd := by
    have entry := @entry_filled data memory i offset at_
    rw [Nat.mod_eq_of_lt (by simp only [binderSize]; omega)] at entry
    rw [objectType,objectAddress,Layout.entryAddress]
    simp only [layoutOf]
    rw [offsets,entry,object_filled room,fd]
  have counted : i < (layoutOf (TransactionData.decode (filled memory data))).objCount := by
    simp only [Layout.objCount,layoutOf]
    rw [offsetsSize,Nat.mul_div_cancel _ (by decide)]
    exact (List.getElem?_eq_some_iff.mp at_).1
  simp only [filled] at kept type counted
  rw [kept] at made
  simp only at made
  split at made
  · cases made
  rename_i accepted
  rw [not_not] at accepted
  split at made
  · cases made
  rename_i sender sent
  cases made
  obtain ⟨sessions,count,translated⟩ := sent_of_translated accepted sent
  have header := decode_congr (header_of_translated accepted sent)
  have inRange : i < sessions.length := by omega
  have source := chain_get sessions translated.source i inRange
  have packed := chain_get sessions translated.packed i inRange
  rw [Nat.zero_add] at source packed
  rw [(source_none_iff source).mpr type] at packed
  exact ⟨i,header ▸ counted,header ▸ packed⟩

end Translation

section Message
variable {handleOf : Session → Nat} {system next : System} {socketId : Int32} {data : List UInt8} {hasSession : Bool}

/-- A block that a buffer within the limit brings. -/
def Fitting (block : List UInt8) : Prop := 0 < block.length ∧ headerSize+block.length ≤ maxRawdataSize

instance : DecidablePred Fitting := fun block => by
  unfold Fitting
  infer_instance

/-- The system once a raw data package has come. -/
def arrive (system : System) (socketId : Int32) (seqNumber : UInt64) (block : List UInt8) : System :=
  let logged := { system with arrived := (socketId,seqNumber,block) :: system.arrived }
  if 0 < socketId.toInt ∧ Fitting block then logged.attachRawData socketId seqNumber block else logged

/-- The raw data objects of a package. -/
def objectsOf (handleOf : Session → Nat) (package : List UInt8) : Nat :=
  let layout := layoutOf (TransactionData.decode (.ofBytes package))
  rawObjects handleOf layout layout.objCount 0 0 0 ⟨.ofBytes package,[],[]⟩

def startedThread (handleOf : Session → Nat) (socketId : Int32) (package : List UInt8) : Thread :=
  ⟨socketId,package,.translating (objectsOf handleOf package) .new⟩

/-- Whether a package is a transaction for a session. -/
def isCalled (hasSession : Bool) (package : List UInt8) : Bool :=
  (TransactionData.decode (.ofBytes package)).cmd = bcTransaction && hasSession

def start (handleOf : Session → Nat) (socketId : Int32) (hasSession : Bool) (system : System) (packages : List (List UInt8)) : System :=
  { system with threads := system.threads ++ (packages.filter (isCalled hasSession)).map (startedThread handleOf socketId) }

theorem rawOf_spec {seqNumber : UInt64} {block : List UInt8} (raw : rawOf data = some (seqNumber,block)) :
    hasRawDataPackage (.ofBytes data) data.length = min data.length maxRawdataSize ∧ headerSize ≤ data.length ∧
      seqNumber = UInt64.ofNat (TransactionData.decode (.ofBytes data)).seqNumber ∧ block = data.drop headerSize := by
  simp only [rawOf] at raw
  split at raw
  · rename_i filled
    obtain ⟨number,rest⟩ := Prod.mk.inj (Option.some.inj raw)
    obtain ⟨header,magic,cmd,size⟩ := filled
    refine ⟨?_,header,number.symm,rest.symm⟩
    rw [hasRawDataPackage,if_neg (Nat.not_lt.mpr header)]
    simp only [magic,cmd,size,and_self,if_true]
    rcases Nat.lt_or_ge maxRawdataSize data.length with long | short
    · rw [if_pos long,Nat.min_eq_right (Nat.le_of_lt long)]
    · rw [if_neg (Nat.not_lt.mpr short),Nat.min_eq_left short]
  · cases raw

theorem rawOf_none (plain : rawOf data = none) : hasRawDataPackage (.ofBytes data) data.length = 0 := by
  simp only [rawOf] at plain
  split at plain
  · cases plain
  · rename_i other
    rw [hasRawDataPackage]
    split
    · rfl
    · rename_i header
      refine if_neg ?_
      intro filled
      exact other ⟨Nat.le_of_not_lt header,filled⟩

theorem onMessageAvailable_raw {seqNumber : UInt64} {block : List UInt8} (small : data.length < 2^32)
    (raw : rawOf data = some (seqNumber,block)) :
    system.onMessageAvailable handleOf socketId data hasSession = some (arrive system socketId seqNumber block) := by
  obtain ⟨size,header,rfl,rfl⟩ := rawOf_spec raw
  have length : (UInt32.ofNat data.length).toNat = data.length := UInt32.toNat_ofNat_of_lt small
  rw [System.onMessageAvailable,if_neg (Nat.not_le.mpr small),Kernel.Framing.onMessageAvailable]
  simp only [length]
  have width : (data.drop headerSize).length = data.length-headerSize := List.length_drop
  split
  · rename_i refused
    simp only [ignored,Option.map_some,List.map_nil,List.foldl_nil,System.log,raw]
    rw [arrive,if_neg]
    rintro ⟨positive,-,fits⟩
    omega
  · rename_i passed
    simp only [not_or,Int.not_le,gt_iff_lt,Nat.not_lt] at passed
    rw [size,Nat.min_eq_left passed.2.1,if_pos (by simp only [headerSize] at header; omega)]
    simp only [Option.map_some,System.log,raw,System.onRawDataAvailable]
    rw [if_neg (Nat.not_lt.mpr header),← width,List.take_length,arrive]
    simp only [passed.1,true_and]
    refine congrArg some (if_congr ?_ rfl rfl)
    rw [Fitting]
    omega

theorem foldl_startProcessLoop (packages : List (List UInt8)) :
    packages.foldl (System.startProcessLoop handleOf socketId hasSession) system = start handleOf socketId hasSession system packages := by
  induction packages generalizing system with
  | nil => simp [start]
  | cons package packages ih =>
    rw [List.foldl_cons,ih]
    simp only [start,System.startProcessLoop,List.filter_cons]
    by_cases called : (TransactionData.decode (.ofBytes package)).cmd = bcTransaction ∧ hasSession = true
    · have test : isCalled hasSession package = true := by simpa [isCalled] using called
      rw [if_pos called,if_pos test,List.map_cons,List.append_assoc]
      rfl
    · have test : ¬ isCalled hasSession package = true := by simpa [isCalled] using called
      rw [if_neg called,if_neg test]

theorem onMessageAvailable_packages (small : data.length < 2^32) (plain : rawOf data = none) :
    ∃ packages, system.onMessageAvailable handleOf socketId data hasSession = some (start handleOf socketId hasSession system packages) ∧
      (packages ≠ [] → 0 < socketId.toInt) ∧
      (0 < socketId.toInt → data.length ≤ maxRawdataSize → ∀ parts : List (List UInt8), (∀ part ∈ parts, Accepted part) →
        parts.flatten = data → packages = parts) := by
  have length : (UInt32.ofNat data.length).toNat = data.length := UInt32.toNat_ofNat_of_lt small
  rw [System.onMessageAvailable,if_neg (Nat.not_le.mpr small),Kernel.Framing.onMessageAvailable]
  simp only [length,rawOf_none plain,Nat.lt_irrefl,if_false]
  have logged : system.log socketId data = system := by rw [System.log,plain]
  split
  · rename_i refused
    refine ⟨[],by simp only [ignored,Option.map_some,List.map_nil,foldl_startProcessLoop,logged],fun some_ => absurd rfl some_,?_⟩
    intro positive inLimit parts accepted whole
    have short : data.length < headerSize := by omega
    have longest := Framer.longest_nil (packages_size_short short)
    rw [← whole] at longest
    rw [accepted_eq] at accepted
    exact longest.unique (Framer.longest_flatten accepted)
  · rename_i passed
    simp only [not_or,Int.not_le,gt_iff_lt,Nat.not_lt] at passed
    obtain ⟨slices,returned,framed⟩ := readPackages_spec (.ofBytes data) passed.2.1 data.length 0 (Nat.le_refl _)
    rw [returned _ (Nat.lt_succ_self _)]
    refine ⟨slices.map (Slice.bytes (.ofBytes data)),by simp only [Option.map_some,foldl_startProcessLoop,logged],
      fun _ => passed.1,?_⟩
    intro _ _ parts accepted whole
    have longest := framed.longest
    subst whole
    rw [Nat.sub_zero,Memory.readBytes_ofBytes] at longest
    rw [accepted_eq] at accepted
    exact longest.unique (Framer.longest_flatten accepted)

end Message

section Step
variable {handleOf : Session → Nat} {system next : System}

/-- What a thread's step does. -/
inductive Moves (handleOf : Session → Nat) (system : System) (index : Nat) (old : Thread) : System → Prop where
  | translated {parcel : RawParcel} (at_ : old.place = .translating 0 parcel)
      (success : (processTransaction handleOf old.memory).1 = true) : Moves handleOf system index old (system.moveThread index old (.serving parcel))
  | stopped {parcel : RawParcel} (at_ : old.place = .translating 0 parcel) :
      Moves handleOf system index old (system.moveThread index old .done)
  | missing {left : Nat} {parcel : RawParcel} (at_ : old.place = .translating (left+1) parcel)
      (empty : system.queryRawData old.socketId old.seqNumber = none) :
      Moves handleOf system index old (system.moveThread index old (.translating left parcel))
  | found {left : Nat} {parcel : RawParcel} {block : List UInt8} (at_ : old.place = .translating (left+1) parcel)
      (query : system.queryRawData old.socketId old.seqNumber = some block) :
      Moves handleOf system index old (system.moveThread index old (.restoring left parcel block))
  | restored {left : Nat} {parcel : RawParcel} {block : List UInt8} (at_ : old.place = .restoring left parcel block) :
      Moves handleOf system index old ((system.detachRawData old.socketId old.seqNumber).moveThread index old
        (.translating left (parcel.restoreRawData block).1))
  | returned {parcel : RawParcel} (at_ : old.place = .serving parcel) :
      Moves handleOf system index old ((system.detachRawData old.socketId old.seqNumber).moveThread index old .done)
  | ended {parcel : RawParcel} (at_ : old.place = .serving parcel) :
      Moves handleOf system index old (system.moveThread index old .done)

theorem stepThread_cases {index : Nat} {succeeds : Bool} (taken : system.stepThread handleOf index succeeds = some next) :
    ∃ old, system.threads[index]? = some old ∧ Moves handleOf system index old next := by
  simp only [System.stepThread] at taken
  split at taken
  · cases taken
  rename_i old at_
  refine ⟨old,at_,?_⟩
  split at taken
  · rename_i parcel place
    split at taken
    · rename_i success
      rw [Bool.and_eq_true] at success
      cases taken
      exact .translated place success.1
    · cases taken
      exact .stopped place
  · rename_i left parcel place
    split at taken
    · rename_i empty
      cases taken
      exact .missing place empty
    · rename_i block query
      cases taken
      exact .found place query
  · rename_i left parcel block place
    cases taken
    exact .restored place
  · rename_i parcel place
    split at taken
    · cases taken
      exact .returned place
    · cases taken
      exact .ended place
  · cases taken

theorem onMessageAvailable_cases {socketId : Int32} {data : List UInt8} {hasSession : Bool}
    (taken : system.onMessageAvailable handleOf socketId data hasSession = some next) :
    (∃ seqNumber block, rawOf data = some (seqNumber,block) ∧ next = arrive system socketId seqNumber block) ∨
      rawOf data = none ∧ ∃ packages, next = start handleOf socketId hasSession system packages ∧
        (packages ≠ [] → 0 < socketId.toInt) ∧
        (0 < socketId.toInt → data.length ≤ maxRawdataSize → ∀ parts : List (List UInt8), (∀ part ∈ parts, Accepted part) →
          parts.flatten = data → packages = parts) := by
  have small : data.length < 2^32 := by
    by_contra long
    rw [System.onMessageAvailable,if_pos (Nat.le_of_not_lt long)] at taken
    cases taken
  cases raw : rawOf data with
  | none =>
    obtain ⟨packages,result,cut⟩ := @onMessageAvailable_packages handleOf system socketId data hasSession small raw
    rw [result] at taken
    exact .inr ⟨rfl,packages,(Option.some.inj taken).symm,cut⟩
  | some found =>
    obtain ⟨seqNumber,block⟩ := found
    rw [onMessageAvailable_raw small raw] at taken
    exact .inl ⟨seqNumber,block,rfl,(Option.some.inj taken).symm⟩

end Step

section Request
variable {handleOf : Session → Nat} {socketId : Int32} {seqNumber : UInt64} {system next : System}

def isOf (socketId : Int32) (seqNumber : UInt64) (thread : Thread) : Bool :=
  thread.socketId = socketId ∧ thread.seqNumber = seqNumber

/-- The blocks that came for a request. -/
def arrivedOf (socketId : Int32) (seqNumber : UInt64) (system : System) : List (List UInt8) :=
  system.arrived.filterMap fun entry => if entry.1 = socketId ∧ entry.2.1 = seqNumber then some entry.2.2 else none

/-- The block that the process keeps for a request. -/
def kept (socketId : Int32) (seqNumber : UInt64) (system : System) : Option (List UInt8) :=
  (arrivedOf socketId seqNumber system).head?.filter fun block => 0 < socketId.toInt ∧ Fitting block

/-- One request has a sequence number: its raw data package comes once and first, then one transaction. -/
def InTurn (handleOf : Session → Nat) (socketId : Int32) (seqNumber : UInt64) (system : System) : Event → Prop
  | .onMessageAvailable socket data hasSession =>
    (socket = socketId → ∀ block, rawOf data = some (seqNumber,block) →
      arrivedOf socketId seqNumber system = [] ∧ system.threads.countP (isOf socketId seqNumber) = 0) ∧
    ∀ next, system.onMessageAvailable handleOf socket data hasSession = some next → next.threads.countP (isOf socketId seqNumber) ≤ 1
  | .thread _ _ => True

/-- Where the thread of a request stands, when `stored` was kept for it, `current` is, and its package has `total` objects for it. -/
def Phase (stored current : Option (List UInt8)) (total : Nat) : Place → Prop
  | .translating left parcel =>
    left = total ∧ parcel = .new ∧ current = stored ∨ left < total ∧ current = none ∧ parcel = received stored
  | .restoring left parcel found => left < total ∧ parcel = .new ∧ stored = some found
  | .serving parcel => 0 < total → parcel = received stored
  | .done => True

structure Turn (handleOf : Session → Nat) (socketId : Int32) (seqNumber : UInt64) (system : System) : Prop where
  once : (arrivedOf socketId seqNumber system).length ≤ 1
  one : system.threads.countP (isOf socketId seqNumber) ≤ 1
  waiting : system.threads.countP (isOf socketId seqNumber) = 0 →
    system.rawData (rawDataKey socketId seqNumber) = kept socketId seqNumber system
  phase : ∀ thread ∈ system.threads, isOf socketId seqNumber thread = true →
    Phase (kept socketId seqNumber system) (system.rawData (rawDataKey socketId seqNumber)) (objectsOf handleOf thread.package) thread.place

theorem Turn.new : Turn handleOf socketId seqNumber System.new where
  once := Nat.zero_le _
  one := Nat.zero_le _
  waiting := fun _ => rfl
  phase := fun _ member => absurd member List.not_mem_nil

theorem Turn.moved (turn : Turn handleOf socketId seqNumber system) {index : Nat} {old : Thread}
    (at_ : system.threads[index]? = some old) {place : Place} {rawData : List UInt8 → Option (List UInt8)}
    (other : isOf socketId seqNumber old = false →
      rawData (rawDataKey socketId seqNumber) = system.rawData (rawDataKey socketId seqNumber))
    (own : isOf socketId seqNumber old = true → Phase (kept socketId seqNumber system) (rawData (rawDataKey socketId seqNumber))
      (objectsOf handleOf old.package) place) :
    Turn handleOf socketId seqNumber
      { system with rawData := rawData, threads := system.threads.set index { old with place := place } } := by
  have same : isOf socketId seqNumber { old with place := place } = isOf socketId seqNumber old := rfl
  have count := Entries.countP_set_same at_ same
  refine ⟨turn.once,count ▸ turn.one,?_,?_⟩
  · intro none_
    rw [count] at none_
    have notOwn := List.countP_eq_zero.mp none_ old (List.mem_of_getElem? at_)
    exact (other (Bool.eq_false_iff.mpr notOwn)).trans (turn.waiting none_)
  · intro thread member its
    obtain ⟨position,there⟩ := List.getElem?_of_mem member
    rcases Entries.at_set there with ⟨-,rfl⟩ | ⟨elsewhere,before⟩
    · exact own its
    · -- the thread of the request is elsewhere, so the one that moves is not its
      have notOwn : isOf socketId seqNumber old = false := by
        by_contra both
        exact elsewhere (Entries.at_most_one turn.one before at_ its (Bool.not_eq_false _ ▸ both))
      have phase := turn.phase thread (List.mem_of_getElem? before) its
      rw [← other notOwn] at phase
      exact phase

theorem key_of {thread : Thread} (its : isOf socketId seqNumber thread = true) :
    rawDataKey thread.socketId thread.seqNumber = rawDataKey socketId seqNumber := by
  obtain ⟨socket,number⟩ := of_decide_eq_true its
  rw [socket,number]

theorem key_ne {thread : Thread} (other : isOf socketId seqNumber thread = false) :
    rawDataKey socketId seqNumber ≠ rawDataKey thread.socketId thread.seqNumber := by
  intro same
  obtain ⟨socket,number⟩ := rawDataKey_injective same
  exact of_decide_eq_false other ⟨socket.symm,number.symm⟩

theorem Turn.thread (turn : Turn handleOf socketId seqNumber system) {index : Nat} {old : Thread}
    (at_ : system.threads[index]? = some old) (moves : Moves handleOf system index old next) :
    Turn handleOf socketId seqNumber next := by
  have phase := turn.phase old (List.mem_of_getElem? at_)
  have detached : isOf socketId seqNumber old = false →
      Function.update system.rawData (rawDataKey old.socketId old.seqNumber) none (rawDataKey socketId seqNumber) =
        system.rawData (rawDataKey socketId seqNumber) := fun other => Function.update_of_ne (key_ne other) _ _
  cases moves with
  | translated place success =>
    refine turn.moved at_ (fun _ => rfl) ?_
    intro own some_
    have before := phase own
    rw [place] at before
    rcases before with ⟨zero,-⟩ | ⟨-,-,parcel⟩
    · omega
    · exact parcel
  | stopped place => exact turn.moved at_ (fun _ => rfl) (fun _ => trivial)
  | missing place empty =>
    refine turn.moved at_ (fun _ => rfl) ?_
    intro own
    have before := phase own
    rw [place] at before
    rw [System.queryRawData,key_of own] at empty
    rcases before with ⟨all,rfl,same⟩ | ⟨less,none_,parcel⟩
    · refine .inr ⟨by omega,empty,?_⟩
      rw [← same,empty]
      rfl
    · exact .inr ⟨by omega,none_,parcel⟩
  | found place query =>
    refine turn.moved at_ (fun _ => rfl) ?_
    intro own
    have before := phase own
    rw [place] at before
    rw [System.queryRawData,key_of own] at query
    rcases before with ⟨all,rfl,same⟩ | ⟨less,none_,parcel⟩
    · exact ⟨by omega,rfl,same.symm.trans query⟩
    · rw [none_] at query
      cases query
  | restored place =>
    refine turn.moved at_ detached ?_
    intro own
    have before := phase own
    rw [place] at before
    obtain ⟨less,rfl,stored⟩ := before
    refine .inr ⟨less,?_,?_⟩
    · rw [System.detachRawData,key_of own]
      exact Function.update_self _ _ _
    · rw [stored]
      rfl
  | returned place => exact turn.moved at_ detached (fun _ => trivial)
  | ended place => exact turn.moved at_ (fun _ => rfl) (fun _ => trivial)

theorem arrive_own (block : List UInt8) :
    let next := arrive system socketId seqNumber block
    arrivedOf socketId seqNumber next = block :: arrivedOf socketId seqNumber system ∧ next.threads = system.threads ∧
      next.rawData (rawDataKey socketId seqNumber) =
        if 0 < socketId.toInt ∧ Fitting block then some block else system.rawData (rawDataKey socketId seqNumber) := by
  simp only [arrive]
  split
  · refine ⟨?_,rfl,Function.update_self _ _ _⟩
    simp [arrivedOf,System.attachRawData]
  · refine ⟨?_,rfl,rfl⟩
    simp [arrivedOf]

theorem arrive_other {socket : Int32} {number : UInt64} (apart : ¬ (socket = socketId ∧ number = seqNumber)) (block : List UInt8) :
    let next := arrive system socket number block
    arrivedOf socketId seqNumber next = arrivedOf socketId seqNumber system ∧ next.threads = system.threads ∧
      next.rawData (rawDataKey socketId seqNumber) = system.rawData (rawDataKey socketId seqNumber) := by
  simp only [arrive]
  have key : rawDataKey socketId seqNumber ≠ rawDataKey socket number := by
    intro same
    obtain ⟨one,two⟩ := rawDataKey_injective same
    exact apart ⟨one.symm,two.symm⟩
  split
  · refine ⟨?_,rfl,Function.update_of_ne key _ _⟩
    simp [arrivedOf,System.attachRawData,apart]
  · refine ⟨?_,rfl,rfl⟩
    simp [arrivedOf,apart]

theorem Turn.arrive_own (turn : Turn handleOf socketId seqNumber system) (first : arrivedOf socketId seqNumber system = [])
    (none_ : system.threads.countP (isOf socketId seqNumber) = 0) (block : List UInt8) :
    Turn handleOf socketId seqNumber (arrive system socketId seqNumber block) := by
  obtain ⟨arrived,threads,now⟩ := @RawData.arrive_own socketId seqNumber system block
  have before := turn.waiting none_
  rw [kept,first] at before
  refine ⟨by rw [arrived,first]; rfl,threads ▸ turn.one,?_,?_⟩
  · intro _
    rw [now,kept,arrived,List.head?_cons,Option.filter_some,before]
    simp only [decide_eq_true_eq]
    rfl
  · intro thread member its
    rw [threads] at member
    exact absurd its (List.countP_eq_zero.mp none_ thread member)

theorem Turn.arrive_other (turn : Turn handleOf socketId seqNumber system) {socket : Int32} {number : UInt64}
    (apart : ¬ (socket = socketId ∧ number = seqNumber)) (block : List UInt8) :
    Turn handleOf socketId seqNumber (arrive system socket number block) := by
  obtain ⟨arrived,threads,now⟩ := @RawData.arrive_other socketId seqNumber system socket number apart block
  have same : kept socketId seqNumber (arrive system socket number block) = kept socketId seqNumber system := by
    rw [kept,arrived,kept]
  refine ⟨arrived ▸ turn.once,threads ▸ turn.one,?_,?_⟩
  · rw [threads,now,same]
    exact turn.waiting
  · rw [threads,now,same]
    exact turn.phase

theorem Turn.start (turn : Turn handleOf socketId seqNumber system) {socket : Int32} {hasSession : Bool} {packages : List (List UInt8)}
    (one : (start handleOf socket hasSession system packages).threads.countP (isOf socketId seqNumber) ≤ 1) :
    Turn handleOf socketId seqNumber (RawData.start handleOf socket hasSession system packages) := by
  refine ⟨turn.once,one,?_,?_⟩
  · intro none_
    simp only [RawData.start,List.countP_append] at none_
    exact turn.waiting (by omega)
  · intro thread member its
    rcases List.mem_append.mp member with old | new
    · exact turn.phase thread old its
    · -- the thread starts with what was kept for it
      have added := List.countP_pos_iff.mpr ⟨thread,new,its⟩
      simp only [RawData.start,List.countP_append] at one
      obtain ⟨package,-,rfl⟩ := List.mem_map.mp new
      exact .inl ⟨rfl,rfl,turn.waiting (by omega)⟩

theorem Turn.step (turn : Turn handleOf socketId seqNumber system) {event : Event} (guard : InTurn handleOf socketId seqNumber system event)
    (taken : system.step handleOf event = some next) : Turn handleOf socketId seqNumber next := by
  cases event with
  | onMessageAvailable socket data hasSession =>
    rcases onMessageAvailable_cases taken with ⟨number,block,raw,rfl⟩ | ⟨-,packages,rfl,-⟩
    · by_cases its : socket = socketId ∧ number = seqNumber
      · obtain ⟨rfl,rfl⟩ := its
        obtain ⟨first,none_⟩ := guard.1 rfl block raw
        exact turn.arrive_own first none_ block
      · exact turn.arrive_other its block
    · exact turn.start (guard.2 _ taken)
  | thread index succeeds =>
    obtain ⟨old,at_,moves⟩ := stepThread_cases taken
    exact turn.thread at_ moves

theorem turn_of_run {events : List Event} (run : Reaches (guarded (fires (System.step handleOf)) (InTurn handleOf socketId seqNumber))
    System.new events system) : Turn handleOf socketId seqNumber system :=
  run.invariant _ .new fun _ _ _ turn taken => turn.step taken.1 taken.2

end Request

section Own
variable {handleOf : Session → Nat} {system next : System}

/-- The blocks a thread has. -/
def Has : Place → List UInt8 → Prop
  | .translating _ parcel,block => parcel.rawData = some block
  | .restoring _ parcel found,block => parcel.rawData = some block ∨ found = block
  | .serving parcel,block => parcel.rawData = some block
  | .done,_ => False

/-- A thread only has blocks that came for its own socket and sequence number. -/
def NeverConfused (system : System) : Prop :=
  ∀ thread ∈ system.threads, ∀ block, Has thread.place block → (thread.socketId,thread.seqNumber,block) ∈ system.arrived

structure Sound (system : System) : Prop where
  stored : ∀ socketId seqNumber block, system.rawData (rawDataKey socketId seqNumber) = some block →
    (socketId,seqNumber,block) ∈ system.arrived
  own : NeverConfused system
  sockets : ∀ thread ∈ system.threads, 0 < thread.socketId.toInt

theorem Sound.new : Sound System.new where
  stored := fun _ _ _ there => by cases there
  own := fun _ member => absurd member List.not_mem_nil
  sockets := fun _ member => absurd member List.not_mem_nil

theorem Sound.moved (sound : Sound system) {index : Nat} {old : Thread} (at_ : system.threads[index]? = some old) {place : Place}
    {rawData : List UInt8 → Option (List UInt8)} (less : ∀ key block, rawData key = some block → system.rawData key = some block)
    (holds : ∀ block, Has place block → (old.socketId,old.seqNumber,block) ∈ system.arrived) :
    Sound { system with rawData := rawData, threads := system.threads.set index { old with place := place } } := by
  refine ⟨fun socketId seqNumber block there => sound.stored socketId seqNumber block (less _ _ there),?_,?_⟩
  · intro thread member
    rcases List.mem_or_eq_of_mem_set member with before | rfl
    · exact sound.own thread before
    · exact holds
  · intro thread member
    rcases List.mem_or_eq_of_mem_set member with before | rfl
    · exact sound.sockets thread before
    · exact sound.sockets old (List.mem_of_getElem? at_)

theorem restoreRawData_own {parcel : RawParcel} {block other : List UInt8}
    (there : (parcel.restoreRawData block).1.rawData = some other) : parcel.rawData = some other ∨ block = other := by
  rw [RawParcel.restoreRawData] at there
  split at there
  · exact .inl there
  · exact .inr (Option.some.inj there)

theorem Sound.thread (sound : Sound system) {index : Nat} {old : Thread} (at_ : system.threads[index]? = some old)
    (moves : Moves handleOf system index old next) : Sound next := by
  have own := sound.own old (List.mem_of_getElem? at_)
  have detached : ∀ text key block, Function.update system.rawData text none key = some block → system.rawData key = some block := by
    intro text key block there
    by_cases same : key = text
    · rw [same,Function.update_self] at there
      cases there
    · rwa [Function.update_of_ne same] at there
  cases moves with
  | translated place success =>
    rw [place] at own
    exact sound.moved at_ (fun _ _ there => there) own
  | stopped place => exact sound.moved at_ (fun _ _ there => there) (fun _ none_ => absurd none_ id)
  | missing place empty =>
    rw [place] at own
    exact sound.moved at_ (fun _ _ there => there) own
  | found place query =>
    rw [place] at own
    refine sound.moved at_ (fun _ _ there => there) ?_
    rintro block (had | rfl)
    · exact own block had
    · exact sound.stored _ _ _ query
  | restored place =>
    rw [place] at own
    refine sound.moved at_ (detached _) ?_
    intro block there
    exact own block (restoreRawData_own there)
  | returned place => exact sound.moved at_ (detached _) (fun _ none_ => absurd none_ id)
  | ended place => exact sound.moved at_ (fun _ _ there => there) (fun _ none_ => absurd none_ id)

theorem arrive_threads (socketId : Int32) (seqNumber : UInt64) (block : List UInt8) :
    (arrive system socketId seqNumber block).threads = system.threads ∧
      (arrive system socketId seqNumber block).arrived = (socketId,seqNumber,block) :: system.arrived := by
  simp only [arrive]
  split
  · exact ⟨rfl,rfl⟩
  · exact ⟨rfl,rfl⟩

theorem Sound.arrive (sound : Sound system) (socketId : Int32) (seqNumber : UInt64) (block : List UInt8) :
    Sound (RawData.arrive system socketId seqNumber block) := by
  obtain ⟨threads,arrived⟩ := @arrive_threads system socketId seqNumber block
  refine ⟨?_,?_,threads ▸ sound.sockets⟩
  · intro socket number other there
    rw [arrived]
    by_cases same : socketId = socket ∧ seqNumber = number
    · obtain ⟨rfl,rfl⟩ := same
      rw [(arrive_own block).2.2] at there
      split at there
      · cases there
        exact List.mem_cons_self
      · exact List.mem_cons_of_mem _ (sound.stored _ _ _ there)
    · rw [(arrive_other same block).2.2] at there
      exact List.mem_cons_of_mem _ (sound.stored _ _ _ there)
  · intro thread member other holds
    rw [threads] at member
    rw [arrived]
    exact List.mem_cons_of_mem _ (sound.own thread member other holds)

theorem Sound.start (sound : Sound system) {socketId : Int32} {hasSession : Bool} {packages : List (List UInt8)}
    (positive : packages ≠ [] → 0 < socketId.toInt) : Sound (RawData.start handleOf socketId hasSession system packages) := by
  refine ⟨sound.stored,?_,?_⟩
  · intro thread member block holds
    rcases List.mem_append.mp member with old | new
    · exact sound.own thread old block holds
    · obtain ⟨package,-,rfl⟩ := List.mem_map.mp new
      cases holds
  · intro thread member
    rcases List.mem_append.mp member with old | new
    · exact sound.sockets thread old
    · obtain ⟨package,called,rfl⟩ := List.mem_map.mp new
      exact positive (List.ne_nil_of_mem (List.mem_filter.mp called).1)

theorem Sound.step (sound : Sound system) {event : Event} (taken : system.step handleOf event = some next) : Sound next := by
  cases event with
  | onMessageAvailable socketId data hasSession =>
    rcases onMessageAvailable_cases taken with ⟨seqNumber,block,-,rfl⟩ | ⟨-,packages,rfl,positive,-⟩
    · exact sound.arrive socketId seqNumber block
    · exact sound.start positive
  | thread index succeeds =>
    obtain ⟨old,at_,moves⟩ := stepThread_cases taken
    exact sound.thread at_ moves

theorem sound_of_run {events : List Event} (run : Reaches (fires (System.step handleOf)) System.new events system) : Sound system :=
  run.invariant _ .new fun _ _ _ sound taken => sound.step taken

end Own

section Arrival
variable {handleOf : Session → Nat} {system next : System} {events : List Event} {socketId : Int32}

/-- A package comes in a message, with others of its socket. -/
def Called (socketId : Int32) (package : List UInt8) (events : List Event) : Prop :=
  0 < socketId.toInt ∧ ∃ parts : List (List UInt8), (∀ part ∈ parts, Accepted part) ∧ package ∈ parts ∧
    parts.flatten.length ≤ maxRawdataSize ∧ .onMessageAvailable socketId parts.flatten true ∈ events

/-- What a process remembers of the messages it has received. -/
structure Received (events : List Event) (system : System) : Prop where
  blocks : ∀ socketId data hasSession seqNumber block, .onMessageAvailable socketId data hasSession ∈ events →
    rawOf data = some (seqNumber,block) → (socketId,seqNumber,block) ∈ system.arrived
  packages : ∀ socketId package, Called socketId package events → (TransactionData.decode (.ofBytes package)).cmd = bcTransaction →
    ∃ thread ∈ system.threads, thread.socketId = socketId ∧ thread.package = package

/-- Nothing that has come is forgotten. -/
structure Grows (system next : System) : Prop where
  arrived : ∀ entry ∈ system.arrived, entry ∈ next.arrived
  threads : ∀ thread ∈ system.threads, ∃ later ∈ next.threads, later.socketId = thread.socketId ∧ later.package = thread.package

theorem Grows.moved {index : Nat} {old : Thread} (at_ : system.threads[index]? = some old) (place : Place)
    (rawData : List UInt8 → Option (List UInt8)) :
    Grows system { system with rawData := rawData, threads := system.threads.set index { old with place := place } } := by
  refine ⟨fun _ member => member,?_⟩
  intro thread member
  obtain ⟨position,there⟩ := List.getElem?_of_mem member
  by_cases same : position = index
  · subst same
    cases at_.symm.trans there
    exact ⟨_,List.mem_of_getElem? (Entries.at_set_self at_),rfl,rfl⟩
  · exact ⟨thread,List.mem_of_getElem? ((Entries.at_set_other same).trans there),rfl,rfl⟩

theorem Grows.step {event : Event} (taken : system.step handleOf event = some next) : Grows system next := by
  cases event with
  | onMessageAvailable socketId data hasSession =>
    rcases onMessageAvailable_cases taken with ⟨seqNumber,block,-,rfl⟩ | ⟨-,packages,rfl,-⟩
    · obtain ⟨threads,arrived⟩ := @arrive_threads system socketId seqNumber block
      refine ⟨fun entry member => arrived ▸ List.mem_cons_of_mem _ member,?_⟩
      intro thread member
      exact ⟨thread,threads.symm ▸ member,rfl,rfl⟩
    · exact ⟨fun _ member => member,fun thread member => ⟨thread,List.mem_append_left _ member,rfl,rfl⟩⟩
  | thread index succeeds =>
    obtain ⟨old,at_,moves⟩ := stepThread_cases taken
    cases moves with
    | translated place success => exact .moved at_ _ _
    | stopped place => exact .moved at_ _ _
    | missing place empty => exact .moved at_ _ _
    | found place query => exact .moved at_ _ _
    | restored place => exact .moved at_ _ _
    | returned place => exact .moved at_ _ _
    | ended place => exact .moved at_ _ _

/-- A message with a package that is no raw data package is none either. -/
theorem rawOf_parts {parts : List (List UInt8)} (accepted : ∀ part ∈ parts, Accepted part) {package : List UInt8} (member : package ∈ parts)
    (called : (TransactionData.decode (.ofBytes package)).cmd = bcTransaction) : rawOf parts.flatten = none := by
  cases parts with
  | nil => cases member
  | cons first parts =>
    have size : ∀ part ∈ first :: parts, headerSize < part.length ∧ (TransactionData.decode (.ofBytes part)).sizeOfSelf = part.length := by
      intro part its
      obtain ⟨positive,whole⟩ := accepted part its
      rw [hasCompletePackage_eq] at positive whole
      split at positive
      · rename_i complete
        rw [if_pos complete] at whole
        have header := wellFormed_covered _ complete.1
        exact ⟨by omega,whole⟩
      · cases positive
    obtain ⟨header,whole⟩ := size first List.mem_cons_self
    simp only [rawOf,List.flatten_cons]
    rw [decode_ofBytes_append (Nat.le_of_lt header),whole]
    refine if_neg ?_
    rintro ⟨-,-,cmd,alone⟩
    rw [List.length_append] at alone
    rcases List.mem_cons.mp member with rfl | later
    · rw [called] at cmd
      exact absurd cmd (by decide)
    · -- a package behind the first one has bytes of its own
      have room := (size package member).1
      have bytes := (List.sublist_flatten_of_mem later).length_le
      omega

theorem received_of_run (run : Reaches (fires (System.step handleOf)) System.new events system) : Received events system := by
  refine run.trace_invariant Received ⟨?_,?_⟩ ?_
  · intro socketId data hasSession seqNumber block member
    cases member
  · rintro socketId package ⟨-,parts,-,-,-,member⟩
    cases member
  · intro events system event next received taken
    have grows : Grows system next := .step taken
    refine ⟨?_,?_⟩
    · intro socketId data hasSession seqNumber block member raw
      rcases List.mem_append.mp member with old | new
      · exact grows.arrived _ (received.blocks _ _ _ _ _ old raw)
      · cases List.mem_singleton.mp new
        rcases onMessageAvailable_cases taken with ⟨number,other,known,rfl⟩ | ⟨plain,-⟩
        · cases raw.symm.trans known
          rw [(arrive_threads socketId seqNumber block).2]
          exact List.mem_cons_self
        · rw [plain] at raw
          cases raw
    · rintro socketId package ⟨positive,parts,accepted,its,inLimit,member⟩ called
      rcases List.mem_append.mp member with old | new
      · obtain ⟨thread,there,socket,same⟩ := received.packages socketId package ⟨positive,parts,accepted,its,inLimit,old⟩ called
        obtain ⟨later,there',socket',same'⟩ := grows.threads thread there
        exact ⟨later,there',socket'.trans socket,same'.trans same⟩
      · cases List.mem_singleton.mp new
        rcases onMessageAvailable_cases taken with ⟨number,other,raw,-⟩ | ⟨-,packages,rfl,-,cut⟩
        · rw [rawOf_parts accepted its called] at raw
          cases raw
        · obtain rfl := cut positive inLimit parts accepted rfl
          refine ⟨startedThread handleOf socketId package,List.mem_append_right _ (List.mem_map_of_mem ?_),rfl,rfl⟩
          refine List.mem_filter.mpr ⟨its,?_⟩
          simp only [isCalled,called,decide_true,Bool.and_self]

end Arrival

theorem kept_of_arrived {socketId : Int32} {seqNumber : UInt64} {block : List UInt8} {system : System}
    (once : (arrivedOf socketId seqNumber system).length ≤ 1) (there : (socketId,seqNumber,block) ∈ system.arrived)
    (positive : 0 < socketId.toInt) : kept socketId seqNumber system = if Fitting block then some block else none := by
  have member : block ∈ arrivedOf socketId seqNumber system :=
    List.mem_filterMap.mpr ⟨_,there,if_pos ⟨rfl,rfl⟩⟩
  rw [kept]
  cases blocks : arrivedOf socketId seqNumber system with
  | nil =>
    rw [blocks] at member
    cases member
  | cons first rest =>
    rw [blocks] at once member
    rw [List.length_cons] at once
    cases List.length_eq_zero_iff.mp (show rest.length = 0 by omega)
    cases List.mem_singleton.mp member
    rw [List.head?_cons,Option.filter_some]
    simp only [positive,true_and,decide_eq_true_eq]

/-- A large block that was accepted and sent ahead of its transaction is read by the server if and only if its package was not
above the limit of the receiver and the parcel has no small block that was read before. -/
theorem raw_block_read_iff {handleOf : Session → Nat} {before later : List (Option (List UInt8) × WriteResults)} {block : List UInt8}
    {results : WriteResults} {parcel : RawParcel}
    (accepted : (writeAll .new before).writeRawData (some block) results = (parcel,true)) (large : minRawdataSize < block.length)
    {data : MessageParcel} (offers : data.rawData = (writeAll parcel later).offered) {seqNumber : UInt64} {raw : List UInt8}
    (ahead : rawDataPackage data seqNumber.toNat = some raw) {sessionOf : Nat → Nat → Nat → Nat → Option Session}
    {cookie code flags : Nat} {status : Int} {package : Memory}
    (made : processNormalData sessionOf data cookie seqNumber.toNat bcTransaction code flags status = some package)
    (descriptor : Descriptor package) {socketId : Int32} {events : List Event} {system : System}
    (run : Reaches (guarded (fires (System.step handleOf)) (InTurn handleOf socketId seqNumber)) System.new events system)
    {hasSession : Bool} (arrives : .onMessageAvailable socketId raw hasSession ∈ events) :
    NeverConfused system ∧
      (Called socketId (sentBytes package) events →
        ∃ thread ∈ system.threads, thread.socketId = socketId ∧ thread.package = sentBytes package) ∧
      ∀ thread ∈ system.threads, thread.socketId = socketId → thread.package = sentBytes package →
        (processTransaction handleOf thread.memory).1 = true ∧
        ∀ served, thread.place = .serving served → ∀ reads answer, Answers answer block →
          (((readAll served reads).readRawData block.length answer).1 = some block ↔
            headerSize+block.length ≤ maxRawdataSize ∧ ∀ read ∈ reads, ¬ Small read) := by
  have plain : Reaches (fires (System.step handleOf)) System.new events system := run.mono fun _ _ _ taken => taken.2
  have sound := sound_of_run plain
  have received_ := received_of_run plain
  have turn := turn_of_run run
  obtain ⟨holds,small⟩ := writeRawData_holds (writeAll_local rfl before) accepted large
  have offered : data.rawData = block := by rw [offers,holds.writeAll,holds.offered]
  obtain ⟨brings,-⟩ := rawOf_rawDataPackage ahead (offered ▸ small)
  rw [offered] at brings
  have there := received_.blocks _ _ _ _ _ arrives brings
  refine ⟨sound.own,?_,?_⟩
  · intro called
    refine received_.packages socketId _ called ?_
    exact (@received_of_made handleOf _ _ _ _ _ _ _ _ made descriptor ⟨socketId,sentBytes package,.done⟩ rfl).2.1
  · intro thread member socket its
    obtain ⟨number,-,success,objects⟩ := @received_of_made handleOf _ _ _ _ _ _ _ _ made descriptor thread its
    refine ⟨success,?_⟩
    intro served serving reads answer answers
    have own : isOf socketId seqNumber thread = true := decide_eq_true ⟨socket,number⟩
    have phase := turn.phase thread member own
    rw [serving] at phase
    have kept_ := kept_of_arrived turn.once there (socket ▸ sound.sockets thread member)
    rw [phase objects,kept_]
    have bound : Fitting block ↔ headerSize+block.length ≤ maxRawdataSize := by
      rw [Fitting]
      simp only [minRawdataSize] at large
      exact ⟨fun fits => fits.2,fun fits => ⟨by omega,fits⟩⟩
    rw [readRawData_received_iff _ ?_ small large reads answers,← bound]
    · refine and_congr_left fun _ => ?_
      by_cases fits : Fitting block
      · simp [fits]
      · simp [fits]
    · intro other same
      split at same
      · exact (Option.some.inj same).symm
      · cases same

section Sample
variable {handleOf : Session → Nat} {block raw package : List UInt8} {seqNumber : UInt64} {socketId : Int32}

/-- A system that refuses nothing. -/
def granted : WriteResults := ⟨true,true,3,0,true,true,true⟩

theorem writeRawData_granted (large : minRawdataSize < block.length) (small : block.length ≤ maxRawdataSize) :
    RawParcel.new.writeRawData (some block) granted = (⟨3,-1,some block,none,none,block.length⟩,true) := by
  simp only [RawParcel.writeRawData]
  rw [if_neg (by omega),if_neg (by simp [RawParcel.new]),if_neg (by simp [granted]),if_neg (by omega),if_neg (by decide),
    if_neg (by simp [granted])]
  rfl

theorem rawDataPackage_some {data : MessageParcel} (small : data.rawData.length ≤ maxRawdataSize) :
    ∃ raw, rawDataPackage data seqNumber.toNat = some raw := by
  simp only [maxRawdataSize] at small
  simp only [rawDataPackage]
  rw [if_neg (by simp only [secureMemMaxLen]; omega)]
  exact ⟨_,rfl⟩

/-- The thread of a transaction with one object for raw data, alone in the process, gets to its stub. -/
theorem thread_served {events : List Event} {map : List UInt8 → Option (List UInt8)} {arrived : List (Int32 × UInt64 × List UInt8)}
    (number : (Thread.mk socketId package .done).seqNumber = seqNumber)
    (success : (processTransaction handleOf (.ofBytes package)).1 = true)
    (run : Reaches (guarded (fires (System.step handleOf)) (InTurn handleOf socketId seqNumber)) System.new events
      ⟨map,[⟨socketId,package,.translating 1 .new⟩],arrived⟩) :
    ∃ more system, Reaches (guarded (fires (System.step handleOf)) (InTurn handleOf socketId seqNumber)) System.new (events ++ more) system ∧
      ⟨socketId,package,.serving (received (map (rawDataKey socketId seqNumber)))⟩ ∈ system.threads := by
  have last : ∀ {events : List Event} {map : List UInt8 → Option (List UInt8)} {parcel : RawParcel},
      Reaches (guarded (fires (System.step handleOf)) (InTurn handleOf socketId seqNumber)) System.new events
        ⟨map,[⟨socketId,package,.translating 0 parcel⟩],arrived⟩ →
      Reaches (guarded (fires (System.step handleOf)) (InTurn handleOf socketId seqNumber)) System.new (events ++ [.thread 0 true])
        ⟨map,[⟨socketId,package,.serving parcel⟩],arrived⟩ := by
    intro events map parcel run
    refine .snoc _ run ⟨trivial,?_⟩
    simp [fires,System.step,System.stepThread,System.moveThread,Thread.memory,success]
  have query : ∀ place, (System.mk map [⟨socketId,package,place⟩] arrived).queryRawData socketId
      (Thread.mk socketId package place).seqNumber = map (rawDataKey socketId seqNumber) := by
    intro place
    rw [← number]
    rfl
  cases stored : map (rawDataKey socketId seqNumber) with
  | none =>
    have first : Reaches (guarded (fires (System.step handleOf)) (InTurn handleOf socketId seqNumber)) System.new
        (events ++ [.thread 0 true]) ⟨map,[⟨socketId,package,.translating 0 .new⟩],arrived⟩ := by
      refine .snoc _ run ⟨trivial,?_⟩
      simp [fires,System.step,System.stepThread,System.moveThread,query,stored]
    have second := last first
    rw [List.append_assoc] at second
    exact ⟨_,_,second,List.mem_singleton_self _⟩
  | some block =>
    have first : Reaches (guarded (fires (System.step handleOf)) (InTurn handleOf socketId seqNumber)) System.new
        (events ++ [.thread 0 true]) ⟨map,[⟨socketId,package,.restoring 0 .new block⟩],arrived⟩ := by
      refine .snoc _ run ⟨trivial,?_⟩
      simp [fires,System.step,System.stepThread,System.moveThread,query,stored]
    have second : Reaches (guarded (fires (System.step handleOf)) (InTurn handleOf socketId seqNumber)) System.new
        (events ++ [.thread 0 true] ++ [.thread 0 true]) ⟨_,[⟨socketId,package,.translating 0 (received (some block))⟩],arrived⟩ :=
      .snoc _ first ⟨trivial,rfl⟩
    have third := last second
    rw [List.append_assoc,List.append_assoc] at third
    exact ⟨_,_,third,List.mem_singleton_self _⟩

/-- A raw data package and its transaction, in a process with nothing else to do. -/
theorem request_served (small : raw.length < 2^32) (brings : rawOf raw = some (seqNumber,block)) (accepted : Accepted package)
    (limit : package.length ≤ maxRawdataSize) (called : (TransactionData.decode (.ofBytes package)).cmd = bcTransaction)
    (number : (Thread.mk socketId package .done).seqNumber = seqNumber) (positive : 0 < socketId.toInt)
    (one : objectsOf handleOf package = 1) (success : (processTransaction handleOf (.ofBytes package)).1 = true) :
    ∃ events system, Reaches (guarded (fires (System.step handleOf)) (InTurn handleOf socketId seqNumber)) System.new events system ∧
      .onMessageAvailable socketId raw true ∈ events ∧ Called socketId package events ∧
      ⟨socketId,package,.serving (received (if Fitting block then some block else none))⟩ ∈ system.threads := by
  have plain : rawOf package = none := by
    have alone := @rawOf_parts [package] (by simpa using accepted) package List.mem_cons_self called
    rwa [List.flatten_singleton] at alone
  obtain ⟨threads,arrived⟩ := @arrive_threads System.new socketId seqNumber block
  have step : System.new.step handleOf (.onMessageAvailable socketId raw true) = some (arrive System.new socketId seqNumber block) :=
    onMessageAvailable_raw small brings
  have first : Reaches (guarded (fires (System.step handleOf)) (InTurn handleOf socketId seqNumber)) System.new
      [.onMessageAvailable socketId raw true] (arrive System.new socketId seqNumber block) := by
    refine .single ⟨⟨fun _ _ _ => ⟨rfl,rfl⟩,?_⟩,step⟩
    intro next taken
    cases step.symm.trans taken
    rw [threads]
    exact Nat.zero_le _
  have length : package.length < 2^32 := by
    simp only [maxRawdataSize] at limit
    omega
  obtain ⟨packages,step,-,cut⟩ := @onMessageAvailable_packages handleOf (arrive System.new socketId seqNumber block) socketId package
    true length plain
  obtain rfl := cut positive limit [package] (by simpa using accepted) List.flatten_singleton
  have started : start handleOf socketId true (arrive System.new socketId seqNumber block) [package] =
      ⟨(arrive System.new socketId seqNumber block).rawData,[⟨socketId,package,.translating 1 .new⟩],
        (arrive System.new socketId seqNumber block).arrived⟩ := by
    have passes : [package].filter (isCalled true) = [package] := by simp [isCalled,called]
    rw [start,passes,threads,List.map_singleton,startedThread,one]
    rfl
  rw [started] at step
  have guard : InTurn handleOf socketId seqNumber (arrive System.new socketId seqNumber block)
      (.onMessageAvailable socketId package true) := by
    refine ⟨?_,?_⟩
    · intro _ other raw
      rw [plain] at raw
      cases raw
    · intro next taken
      cases step.symm.trans taken
      exact List.countP_le_length
  obtain ⟨more,system,run,serving⟩ := thread_served number success (.snoc _ first ⟨guard,step⟩)
  rw [(arrive_own block).2.2] at serving
  simp only [positive,true_and] at serving
  refine ⟨_,system,run,by simp,⟨positive,[package],by simpa using accepted,List.mem_cons_self,?_,?_⟩,serving⟩
  · rwa [List.flatten_singleton]
  · rw [List.flatten_singleton]
    simp

/-- The data of a parcel with a large block: its size and the object of a descriptor. -/
def sampleData (size : Nat) : List UInt8 := toLE 4 size ++ toLE 4 binderTypeFd ++ List.replicate 20 0

def sampleTransaction (size : Nat) : Option Memory :=
  processNormalData (fun _ _ _ _ => none) ⟨sampleData size,[4],[]⟩ 0 (5 : UInt64).toNat bcTransaction 1 0 0

def samplePackage (size : Nat) : Memory := (sampleTransaction size).getD fun _ => 0

def sampleAnswer (size : Nat) : ReadResults := ⟨Int32.ofNat size,none,-1,-1,none⟩

/-- The transaction of a block of this size arrives in one piece, with one object for raw data. -/
def SampleArrives (size : Nat) : Prop :=
  (sampleTransaction size).isSome = true ∧ Descriptor (samplePackage size) ∧ Accepted (sentBytes (samplePackage size)) ∧
    (sentBytes (samplePackage size)).length ≤ maxRawdataSize ∧ objectsOf (fun _ => 1) (sentBytes (samplePackage size)) = 1

theorem sample_made {size : Nat} (arrives : SampleArrives size) (block : List UInt8) :
    processNormalData (fun _ _ _ _ => none) ⟨sampleData size,[4],block⟩ 0 (5 : UInt64).toNat bcTransaction 1 0 0 =
      some (samplePackage size) := by
  have same : processNormalData (fun _ _ _ _ => none) ⟨sampleData size,[4],block⟩ 0 (5 : UInt64).toNat bcTransaction 1 0 0 =
      sampleTransaction size := by rw [sampleTransaction,processNormalData,processNormalData]; rfl
  obtain ⟨package,made⟩ := Option.isSome_iff_exists.mp arrives.1
  rw [same,samplePackage,made]
  rfl

theorem sample_served {size : Nat} (arrives : SampleArrives size) (sized : block.length = size) (small : size ≤ maxRawdataSize) :
    ∃ raw events system, rawDataPackage ⟨sampleData size,[4],block⟩ (5 : UInt64).toNat = some raw ∧
      Reaches (guarded (fires (System.step fun _ => 1)) (InTurn (fun _ => 1) 3 5)) System.new events system ∧
      .onMessageAvailable 3 raw true ∈ events ∧ Called 3 (sentBytes (samplePackage size)) events ∧
      ⟨3,sentBytes (samplePackage size),.serving (received (if Fitting block then some block else none))⟩ ∈ system.threads := by
  obtain ⟨raw,ahead⟩ := @rawDataPackage_some 5 ⟨sampleData size,[4],block⟩ (sized ▸ small)
  obtain ⟨brings,length⟩ := rawOf_rawDataPackage ahead (sized ▸ small)
  have made := sample_made arrives block
  obtain ⟨-,descriptor,accepted,limit,one⟩ := arrives
  generalize samplePackage size = package at *
  obtain ⟨number,called,success,-⟩ := @received_of_made (fun _ => 1) _ _ _ _ _ _ 5 _ made descriptor ⟨3,sentBytes package,.done⟩ rfl
  have width : raw.length < 2^32 := by
    simp only [maxRawdataSize] at small
    simp only [headerSize] at length
    omega
  obtain ⟨events,system,run,sent,its,serving⟩ := @request_served (fun _ => 1) block raw (sentBytes package) 5 3 width brings accepted
    limit called number (by decide) one success
  exact ⟨raw,events,system,ahead,run,sent,its,serving⟩

theorem sampleArrives_small : SampleArrives 40000 :=
  ⟨by decide +kernel,⟨0,by decide +kernel,by decide +kernel⟩,by unfold Accepted; decide +kernel,by decide +kernel,by decide +kernel⟩

theorem raw_block_read_iff_sample : ∃ events system served,
    Reaches (guarded (fires (System.step fun _ => 1)) (InTurn (fun _ => 1) 3 5)) System.new events system ∧
      ⟨3,sentBytes (samplePackage 40000),.serving served⟩ ∈ system.threads ∧
      (served.readRawData 40000 (sampleAnswer 40000)).1 = some (List.replicate 40000 1) := by
  generalize known : List.replicate 40000 (1 : UInt8) = block
  have sized : block.length = 40000 := by rw [← known,List.length_replicate]
  have large : minRawdataSize < block.length := by rw [sized]; decide
  have small : block.length ≤ maxRawdataSize := by rw [sized]; decide
  have made := sample_made sampleArrives_small block
  obtain ⟨raw,events,system,ahead,run,sent,-,serving⟩ := sample_served sampleArrives_small sized (by decide)
  have descriptor := sampleArrives_small.2.1
  have holds : Holds (RawParcel.mk 3 (-1) (some block) none none block.length) block := ⟨rfl,rfl,rfl⟩
  generalize samplePackage 40000 = package at *
  have read := (@raw_block_read_iff (fun _ => 1) [] [] block granted _ (writeRawData_granted large small) large
    ⟨sampleData 40000,[4],block⟩ holds.offered.symm 5 raw ahead _ 0 1 0 0 package made descriptor 3 events system run true sent).2.2 _
    serving rfl rfl
  have whole := (read.2 _ rfl [] (sampleAnswer block.length) ⟨rfl,(by decide : (-1 : Int32) < 0)⟩).mpr
    ⟨by rw [sized]; decide,fun _ member => absurd member List.not_mem_nil⟩
  rw [readAll,List.foldl_nil,sized] at whole
  exact ⟨events,system,_,run,serving,whole⟩

theorem sampleArrives_largest : SampleArrives maxRawdataSize :=
  ⟨by decide +kernel,⟨0,by decide +kernel,by decide +kernel⟩,by unfold Accepted; decide +kernel,by decide +kernel,by decide +kernel⟩

/-- A block of `MAX_RAWDATA_SIZE` bytes is accepted, and its package is above the limit of `OnMessageAvailable`. -/
theorem largest_block_lost : ∃ raw events system served,
    ((RawParcel.new.writeRawData (some (List.replicate maxRawdataSize 1)) granted).2 = true ∧
      rawDataPackage ⟨sampleData maxRawdataSize,[4],List.replicate maxRawdataSize 1⟩ 5 = some raw ∧
      processNormalData (fun _ _ _ _ => none) ⟨sampleData maxRawdataSize,[4],List.replicate maxRawdataSize 1⟩ 0 5 bcTransaction 1 0 0 =
        some (samplePackage maxRawdataSize) ∧
      Reaches (guarded (fires (System.step fun _ => 1)) (InTurn (fun _ => 1) 3 5)) System.new events system ∧
      .onMessageAvailable 3 raw true ∈ events ∧ Called 3 (sentBytes (samplePackage maxRawdataSize)) events ∧
      ⟨3,sentBytes (samplePackage maxRawdataSize),.serving served⟩ ∈ system.threads) ∧
      (served.readRawData maxRawdataSize (sampleAnswer maxRawdataSize)).1 = none := by
  have arrives := sampleArrives_largest
  generalize known : List.replicate maxRawdataSize (1 : UInt8) = block
  have sized : block.length = maxRawdataSize := by rw [← known,List.length_replicate]
  have small : block.length ≤ maxRawdataSize := Nat.le_of_eq sized
  obtain ⟨raw,events,system,ahead,run,sent,called,serving⟩ := sample_served arrives sized (Nat.le_refl _)
  have long : ¬ Fitting block := by
    rintro ⟨-,fits⟩
    rw [sized] at fits
    exact absurd fits (by decide)
  rw [if_neg long] at serving
  refine ⟨raw,events,system,_,⟨?_,ahead,sample_made arrives block,run,sent,called,serving⟩,?_⟩
  · rw [writeRawData_granted (by rw [sized]; decide) small]
  · rw [readRawData_large (Nat.le_refl _) (by decide) rfl]
    rfl

end Sample

end CommunicationIpc.RawData
