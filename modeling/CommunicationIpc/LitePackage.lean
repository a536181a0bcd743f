import CommunicationIpc.Kernel.LiteInvoker
import CommunicationIpc.LiteFraming
import CommunicationIpc.SerializerCursor

/-! Packages of the C invoker: what its check says of a received one, where the `IpcIo` made from it
points to, and which of its own packages another process takes. -/
namespace CommunicationIpc.LitePackage
open CommunicationIpc.Library CommunicationIpc.Kernel.LiteInvoker CommunicationIpc.Kernel.Serializer
open CommunicationIpc.Kernel.Package (TransactionData dbinderMagicword socketMaxBuffSize tfStatusCode hasFlag wrap64)
open CommunicationIpc.Kernel.Framing.Lite (headerSize sizeSize bcTransaction bcReply checkTransactionData hasCompletePackage)
open CommunicationIpc.Kernel.Translate (wrap32)
open CommunicationIpc.Package (wrap64_of_lt decode_congr)
open CommunicationIpc.Framing (wrap32_of_lt)
open CommunicationIpc.LiteFraming (Accepted hasCompletePackage_eq shift_zero)
open CommunicationIpc.SerializerCursor (Region Started)

theorem checkTransactionData_iff (tr : TransactionData) :
    checkTransactionData tr = true ↔
      tr.sizeOfSelf ≤ socketMaxBuffSize+headerSize ∧ 0 < tr.bufferSize ∧ tr.bufferSize ≤ socketMaxBuffSize ∧
        tr.offsets = tr.bufferSize ∧ headerSize+tr.bufferSize ≤ tr.sizeOfSelf ∧
        (hasFlag tr.flags tfStatusCode = true → tr.bufferSize = sizeSize) ∧
        (hasFlag tr.flags tfStatusCode = false → tr.offsetsSize ≤ tr.sizeOfSelf-headerSize-tr.bufferSize) := by
  unfold checkTransactionData
  by_cases capped : tr.bufferSize ≤ socketMaxBuffSize
  · rw [wrap64_of_lt (by simp only [headerSize,socketMaxBuffSize] at capped ⊢; omega)]
    simp only [socketMaxBuffSize,headerSize,sizeSize] at capped ⊢
    cases hasFlag tr.flags tfStatusCode with
    | true =>
      simp only [not_true_eq_false,false_and,if_false,true_and,Bool.true_eq_false,false_implies,and_true,forall_const]
      split
      · simp only [Bool.false_eq_true,false_iff]
        omega
      split
      · simp only [Bool.false_eq_true,false_iff]
        omega
      · simp only [true_iff]
        omega
    | false =>
      simp only [Bool.false_eq_true,false_and,if_false,not_false_eq_true,true_and,false_implies,forall_const]
      split
      · simp only [Bool.false_eq_true,false_iff]
        omega
      split
      · simp only [Bool.false_eq_true,false_iff]
        omega
      · simp only [true_iff]
        omega
  · rw [if_pos (by omega)]
    simp only [Bool.false_eq_true,false_iff]
    omega

/-! What was received. -/

/-- `size` bytes from `start` on lie in the package of `length` bytes at `base`. -/
def Covers (base length start size : Nat) : Prop := base ≤ start ∧ start+size ≤ base+length

theorem accepted_header {package : List UInt8} (accepted : Accepted package) :
    checkTransactionData (TransactionData.decode (.ofBytes package)) = true ∧
      (TransactionData.decode (.ofBytes package)).sizeOfSelf = package.length := by
  obtain ⟨found,whole⟩ := accepted
  rw [hasCompletePackage_eq,shift_zero] at found whole
  split at found
  · rename_i complete
    rw [if_pos complete] at whole
    exact ⟨complete.1.2.2,whole⟩
  · cases found

/-- The `IpcIo` that `ToIpcData` makes of a package at `base`. -/
def receivedIo (package : List UInt8) (base : Nat) : IpcIo :=
  toIpcData (TransactionData.decode (.ofBytes package)) (base+headerSize)

/-- The sender has not set the flag that turns the check of the offsets table off, or the table fits all the same. -/
def TableFits (package : List UInt8) : Prop :=
  hasFlag (TransactionData.decode (.ofBytes package)).flags tfStatusCode = false ∨
    headerSize+(TransactionData.decode (.ofBytes package)).bufferSize+
      (TransactionData.decode (.ofBytes package)).offsetsSize/sizeSize*sizeSize ≤ package.length

theorem accepted_bounds {package : List UInt8} (accepted : Accepted package) :
    (TransactionData.decode (.ofBytes package)).bufferSize < 2^63 ∧
      headerSize+(TransactionData.decode (.ofBytes package)).bufferSize ≤ package.length ∧
      (TableFits package → headerSize+(TransactionData.decode (.ofBytes package)).bufferSize+
        (TransactionData.decode (.ofBytes package)).offsetsSize/sizeSize*sizeSize ≤ package.length) := by
  obtain ⟨checked,whole⟩ := accepted_header accepted
  unfold TableFits
  generalize TransactionData.decode (.ofBytes package) = tr at checked whole ⊢
  obtain ⟨-,-,capped,-,covers,-,unflagged⟩ := (checkTransactionData_iff tr).mp checked
  simp only [socketMaxBuffSize] at capped
  refine ⟨by omega,by omega,?_⟩
  rintro (plain | inside)
  · have table := unflagged plain
    have entries := Nat.div_mul_le_self tr.offsetsSize sizeSize
    omega
  · exact inside

/-- The data of an accepted package lies in it, and its offsets table does exactly when `TableFits`; then the
`IpcIo` is one over a region of the package, and what is read from it stays there. -/
theorem received_table_inside_iff {package : List UInt8} (accepted : Accepted package) (base : Nat) :
    (Covers base package.length (receivedIo package base).bufferBase (receivedIo package base).bufferLeft ∧
        Covers base package.length (receivedIo package base).offsetsBase ((receivedIo package base).offsetsLeft*sizeSize) ↔
      TableFits package) ∧
    (TableFits package → ∃ region, Started region (receivedIo package base) ∧
      ∀ access, region.Inside access → Covers base package.length access.1 access.2) := by
  obtain ⟨small,covers,fits⟩ := accepted_bounds accepted
  refine ⟨⟨fun inside => ?_,fun condition => ?_⟩,fun condition => ?_⟩
  · obtain ⟨-,-,high⟩ := inside
    simp only [receivedIo,toIpcData] at high
    exact .inr (by omega)
  · have inside := fits condition
    simp only [Covers,receivedIo,toIpcData]
    omega
  · have inside := fits condition
    let region : Region :=
      ⟨base+headerSize,_,base+headerSize+(TransactionData.decode (.ofBytes package)).bufferSize,
        (TransactionData.decode (.ofBytes package)).offsetsSize/sizeSize,.inl le_rfl,small⟩
    refine ⟨region,.received region,?_⟩
    intro access within
    unfold Covers
    rcases within with ⟨low,high⟩ | ⟨low,high⟩
    · simp only [region] at low high
      omega
    · simp only [region] at low high
      omega

/-- A package with eight bytes of data, given its flags and the size it claims for the offsets. -/
def eightBytes (flags offsetsSize : Nat) : List UInt8 :=
  (headerMemory ⟨80,dbinderMagicword,versionNum,bcTransaction,1,flags,1,1,8,offsetsSize,8⟩ 0).readBytes 0 headerSize ++
    List.replicate 8 0

/-- A package with eight bytes of data and a table of two entries. -/
def twoEntries : List UInt8 :=
  (headerMemory ⟨96,dbinderMagicword,versionNum,bcTransaction,1,0,1,1,8,16,8⟩ 0).readBytes 0 headerSize ++ List.replicate 24 0

theorem received_table_inside_unflagged :
    TableFits twoEntries ∧ (receivedIo twoEntries 4096).offsetsLeft = 2 ∧
      Covers 4096 96 (receivedIo twoEntries 4096).offsetsBase (2*sizeSize) := by
  have accepted : Accepted twoEntries := by
    unfold Accepted
    decide +kernel
  have fits : TableFits twoEntries := .inl (by decide +kernel)
  have length : twoEntries.length = 96 := by decide +kernel
  have entries : (receivedIo twoEntries 4096).offsetsLeft = 2 := by decide +kernel
  have inside := ((received_table_inside_iff accepted 4096).1.mpr fits).2
  rw [length,entries] at inside
  exact ⟨fits,entries,inside⟩

/-- With the flag a table of a tebibyte is accepted in a package of eighty bytes. -/
theorem flagged_table_outside :
    Accepted (eightBytes tfStatusCode (2^40)) ∧
      ¬ Covers 4096 (eightBytes tfStatusCode (2^40)).length (receivedIo (eightBytes tfStatusCode (2^40)) 4096).offsetsBase
        ((receivedIo (eightBytes tfStatusCode (2^40)) 4096).offsetsLeft*sizeSize) := by
  unfold Accepted Covers
  decide +kernel

/-! What is sent. -/

/-- The fields as a reader of the header finds them. -/
def truncated (tr : TransactionData) : TransactionData :=
  ⟨tr.sizeOfSelf % 256^4,tr.magic % 256^4,tr.version % 256^4,tr.cmd % 256^4,tr.code % 256^4,tr.flags % 256^4,
    tr.cookie % 256^8,tr.seqNumber % 256^8,tr.bufferSize % 256^8,tr.offsetsSize % 256^8,tr.offsets % 256^8⟩

theorem decode_headerMemory (tr : TransactionData) (buffer : Nat) :
    TransactionData.decode (headerMemory tr buffer) = truncated tr := by
  simp (disch := decide) only [TransactionData.decode,headerMemory,truncated,Memory.read_write_apart,Memory.read_write]

theorem decode_package (tr : TransactionData) (buffer : Nat) (rest : List UInt8) :
    TransactionData.decode (.ofBytes ((headerMemory tr buffer).readBytes 0 headerSize ++ rest)) = truncated tr := by
  rw [← decode_headerMemory tr buffer]
  apply decode_congr
  intro x inside
  have within : x < headerSize := Nat.lt_trans inside (by decide)
  rw [Memory.ofBytes,List.getD_eq_getElem?_getD,List.getElem?_append_left (by rwa [Memory.readBytes_length]),
    Memory.getElem?_readBytes within,Option.getD_some,Nat.zero_add]

theorem moveIpcToTransData_some {platform : Platform} {memory : Memory} {io : IpcIo} {before after : TransactionData}
    {status : Int32} {buffer : List UInt8} (n k : Nat) (used : usedBuffer io = n) (entries : usedOffsets io = k)
    (size : before.sizeOfSelf = headerSize+(k+n)) (small : n+k*sizeSize ≤ socketMaxBuffSize)
    (moved : moveIpcToTransData platform memory (some io) before status = some (after,buffer)) :
    after = { before with sizeOfSelf := headerSize+(k+n), bufferSize := n, offsets := n, offsetsSize := k*sizeSize } ∧
      buffer = memory.readBytes io.bufferBase n ++ memory.readBytes io.offsetsBase k := by
  simp only [socketMaxBuffSize,sizeSize] at small
  have table : wrap32 (wrap64 (headerSize+(k+n)+2^65-headerSize-n)) = k := by
    rw [show headerSize+(k+n)+2^65-headerSize-n = k+2^65 by omega]
    simp only [wrap64,wrap32]
    omega
  have header : toTransData (some io) before = { before with bufferSize := n, offsets := n, offsetsSize := k*sizeSize } := by
    simp only [toTransData,Option.map_some,Option.getD_some,used,entries]
    rw [wrap64_of_lt (by simp only [sizeSize]; omega)]
  simp only [moveIpcToTransData,header,size,table] at moved
  split at moved
  · cases moved
  split at moved
  · rename_i none
    cases moved
    exact ⟨rfl,by rw [none]; exact (List.append_nil _).symm⟩
  split at moved
  · cases moved
  · cases moved
    exact ⟨rfl,rfl⟩

theorem wrap64_behind_header {size : Nat} (small : size ≤ socketMaxBuffSize) :
    wrap64 (headerSize+size+2^64-headerSize) = size := by
  simp only [socketMaxBuffSize] at small
  rw [show headerSize+size+2^64-headerSize = size+2^64 by omega]
  simp only [wrap64]
  omega

theorem moveTransData2Buffer_some {platform : Platform} {tr : TransactionData} {buffer package : List UInt8} {address : Nat}
    (size : tr.sizeOfSelf = headerSize+buffer.length) (small : buffer.length ≤ socketMaxBuffSize)
    (moved : moveTransData2Buffer platform tr buffer address = some package) :
    package = (headerMemory tr address).readBytes 0 headerSize ++ buffer := by
  simp only [moveTransData2Buffer,size,wrap64_behind_header small,List.take_length] at moved
  split at moved
  · cases moved
  split at moved
  · cases moved
  split at moved
  · cases moved
  · cases moved
    rfl

/-- `ProcessNormalData` counts an entry of the offsets table as one byte. -/
theorem processNormalData_some {platform : Platform} {process : Process} {memory : Memory} {data : IpcIo} {handle : UInt32}
    {status : Int32} {before after : TransactionData} {buffer : List UInt8}
    (small : usedBuffer data+usedOffsets data*sizeSize ≤ socketMaxBuffSize)
    (made : processNormalData platform process memory data handle status before = some (after,buffer)) :
    ∃ cookie, cookie < 2^64 ∧
      after = { before with
        sizeOfSelf := headerSize+(usedOffsets data+usedBuffer data), cookie := cookie, bufferSize := usedBuffer data,
        offsets := usedBuffer data, offsetsSize := usedOffsets data*sizeSize } ∧
      buffer = memory.readBytes data.bufferBase (usedBuffer data) ++ memory.readBytes data.offsetsBase (usedOffsets data) := by
  have bound := small
  simp only [socketMaxBuffSize,sizeSize] at bound
  have dataSize : wrap32 (wrap32 (usedOffsets data)+wrap32 (usedBuffer data)) = usedOffsets data+usedBuffer data := by
    simp only [wrap32]
    omega
  have sizeOfSelf : wrap32 (headerSize+(usedOffsets data+usedBuffer data)) = headerSize+(usedOffsets data+usedBuffer data) :=
    wrap32_of_lt (by simp only [headerSize]; omega)
  simp only [processNormalData,dataSize,sizeOfSelf] at made
  split at made
  · cases made
  split at made
  · exact ⟨0,by decide,moveIpcToTransData_some _ _ rfl rfl rfl small made⟩
  split at made
  · cases made
  · rename_i index _
    exact ⟨index.toNat,index.toNat_lt,moveIpcToTransData_some _ _ rfl rfl rfl small made⟩

theorem getUniqueSeqNumber_command {process : Process} {cmd : Nat} (numbered : getUniqueSeqNumber process cmd ≠ 0) :
    cmd = bcTransaction ∨ cmd = bcReply := by
  unfold getUniqueSeqNumber at numbered
  split at numbered
  · rename_i request
    exact .inl request
  split at numbered
  · rename_i reply
    exact .inr reply
  · exact absurd rfl numbered

/-- The package of `WriteTransaction`: its header, the data, and of the offsets as many bytes as there are entries. -/
theorem writeTransaction_package {platform : Platform} {process : Process} {memory : Memory} {cmd : Nat} {flags handle sessionId code : UInt32}
    {data : IpcIo} {status : Int32} {address : Nat} {session : HandleSession} {seq : UInt64} {package : List UInt8}
    (small : usedBuffer data+usedOffsets data*sizeSize ≤ socketMaxBuffSize)
    (written : writeTransaction platform process memory cmd flags handle sessionId code data status address =
      some (session,seq,package)) :
    (cmd = bcTransaction ∨ cmd = bcReply) ∧ seq ≠ 0 ∧ ∃ cookie, cookie < 2^64 ∧
      package = (headerMemory ⟨headerSize+(usedOffsets data+usedBuffer data),dbinderMagicword,versionNum,cmd,code.toNat,flags.toNat,cookie,
          seq.toNat,usedBuffer data,usedOffsets data*sizeSize,usedBuffer data⟩ address).readBytes 0 headerSize ++
        (memory.readBytes data.bufferBase (usedBuffer data) ++ memory.readBytes data.offsetsBase (usedOffsets data)) := by
  simp only [writeTransaction] at written
  split at written
  · cases written
  split at written
  · cases written
  rename_i numbered
  split at written
  · cases written
  rename_i after buffer made
  split at written
  · cases written
  rename_i moved
  cases written
  obtain ⟨cookie,bound,rfl,rfl⟩ := processNormalData_some small made
  refine ⟨getUniqueSeqNumber_command numbered,numbered,cookie,bound,?_⟩
  have length : (memory.readBytes data.bufferBase (usedBuffer data) ++
      memory.readBytes data.offsetsBase (usedOffsets data)).length = usedBuffer data+usedOffsets data := by
    rw [List.length_append,Memory.readBytes_length,Memory.readBytes_length]
  apply moveTransData2Buffer_some _ _ moved
  · rw [length]
    simp only
    omega
  · rw [length]
    simp only [sizeSize] at small
    omega

/-- What the receiver of a package of `WriteTransaction` finds in it. -/
structure Sent (package : List UInt8) (cmd : Nat) (flags code : UInt32) (seq : UInt64) (n k : Nat) : Prop where
  length : package.length = headerSize+(n+k)
  sizeOfSelf : (TransactionData.decode (.ofBytes package)).sizeOfSelf = headerSize+(n+k)
  magic : (TransactionData.decode (.ofBytes package)).magic = dbinderMagicword
  cmd : (TransactionData.decode (.ofBytes package)).cmd = cmd
  code : (TransactionData.decode (.ofBytes package)).code = code.toNat
  flags : (TransactionData.decode (.ofBytes package)).flags = flags.toNat
  seqNumber : (TransactionData.decode (.ofBytes package)).seqNumber = seq.toNat
  bufferSize : (TransactionData.decode (.ofBytes package)).bufferSize = n
  offsetsSize : (TransactionData.decode (.ofBytes package)).offsetsSize = k*sizeSize
  offsets : (TransactionData.decode (.ofBytes package)).offsets = n

section Sent
variable {platform : Platform} {process : Process} {memory : Memory} {cmd : Nat} {flags handle sessionId code : UInt32}
  {data : IpcIo} {status : Int32} {address : Nat} {session : HandleSession} {seq : UInt64} {package : List UInt8}

theorem sent_of_written (small : usedBuffer data+usedOffsets data*sizeSize ≤ socketMaxBuffSize)
    (written : writeTransaction platform process memory cmd flags handle sessionId code data status address =
      some (session,seq,package)) :
    Sent package cmd flags code seq (usedBuffer data) (usedOffsets data) := by
  obtain ⟨command,-,cookie,-,rfl⟩ := writeTransaction_package small written
  simp only [socketMaxBuffSize,sizeSize] at small
  have codeLt := code.toNat_lt
  have flagsLt := flags.toNat_lt
  have seqLt := seq.toNat_lt
  have cmdLt : cmd < 256^4 := by
    rcases command with rfl | rfl <;> decide
  refine ⟨?_,?_,?_,?_,?_,?_,?_,?_,?_,?_⟩
  · rw [List.length_append,List.length_append,Memory.readBytes_length,Memory.readBytes_length,Memory.readBytes_length]
  all_goals
    rw [decode_package]
    simp only [truncated]
  · rw [Nat.mod_eq_of_lt (by simp only [headerSize]; omega),Nat.add_comm (usedOffsets data)]
  · rfl
  · exact Nat.mod_eq_of_lt cmdLt
  · exact Nat.mod_eq_of_lt codeLt
  · exact Nat.mod_eq_of_lt flagsLt
  · exact Nat.mod_eq_of_lt seqLt
  · exact Nat.mod_eq_of_lt (by omega)
  · exact Nat.mod_eq_of_lt (by simp only [sizeSize]; omega)
  · exact Nat.mod_eq_of_lt (by omega)

variable {n k : Nat}

theorem found_iff {condition : Prop} [Decidable condition] {size : Nat} (positive : 0 < size) :
    (0 < if condition then size else 0) ↔ condition := by
  split
  · rename_i holds
    exact ⟨fun _ => holds,fun _ => positive⟩
  · rename_i fails
    exact ⟨fun absent => absurd absent (Nat.lt_irrefl 0),fun holds => absurd holds fails⟩

/-- The receiver compares the bytes of the offsets with the room that was left for them, one byte an entry. -/
theorem Sent.accepted_iff (sent : Sent package cmd flags code seq n k) (plain : hasFlag flags.toNat tfStatusCode = false)
    (small : n+k*sizeSize ≤ socketMaxBuffSize) : 0 < hasCompletePackage (.ofBytes package) 0 package.length ↔ 0 < n ∧ k = 0 := by
  have fits : wrap32 (0+(headerSize+(n+k))) = headerSize+(n+k) := by
    simp only [socketMaxBuffSize,sizeSize] at small
    rw [Nat.zero_add]
    exact wrap32_of_lt (by simp only [headerSize]; omega)
  rw [hasCompletePackage_eq,shift_zero,sent.sizeOfSelf,sent.length,fits,found_iff (by simp only [headerSize]; omega)]
  simp only [LiteFraming.WellFormed,checkTransactionData_iff,sent.sizeOfSelf,sent.magic,sent.flags,sent.bufferSize,sent.offsets,
    sent.offsetsSize,plain,true_and,Bool.false_eq_true,false_implies,forall_const,le_refl,and_true]
  simp only [socketMaxBuffSize,sizeSize,headerSize] at small ⊢
  omega

end Sent

/-- The receiver takes the package, and the `IpcIo` it makes of the copy at `base` has the data and the offsets of the sender's. -/
def Arrives (memory : Memory) (data : IpcIo) (package : List UInt8) (received : Memory) (base : Nat) : Prop :=
  0 < hasCompletePackage (.ofBytes package) 0 package.length ∧
    (receivedIo package base).bufferLeft = usedBuffer data ∧
    received.readBytes (receivedIo package base).bufferBase (usedBuffer data) = memory.readBytes data.bufferBase (usedBuffer data) ∧
    (receivedIo package base).offsetsLeft = usedOffsets data ∧
    received.readBytes (receivedIo package base).offsetsBase (usedOffsets data*sizeSize) =
      memory.readBytes data.offsetsBase (usedOffsets data*sizeSize)

/-- A message with data arrives exactly when it has no objects. -/
theorem package_arrives_iff (platform : Platform) (process : Process) (memory : Memory) (cmd : Nat)
    (flags handle sessionId code : UInt32) (data : IpcIo) (status : Int32) (address : Nat) {session : HandleSession} {seq : UInt64}
    {package : List UInt8} (some : 0 < usedBuffer data) (small : usedBuffer data+usedOffsets data*sizeSize ≤ socketMaxBuffSize)
    (plain : hasFlag flags.toNat tfStatusCode = false)
    (written : writeTransaction platform process memory cmd flags handle sessionId code data status address =
      .some (session,seq,package))
    {received : Memory} {base : Nat} (copied : received.readBytes base package.length = package) :
    Arrives memory data package received base ↔ usedOffsets data = 0 := by
  have sent := sent_of_written small written
  have accepted := sent.accepted_iff plain small
  constructor
  · intro arrives
    exact (accepted.mp arrives.1).2
  · intro none
    have buffer : received.readBytes (base+headerSize) (usedBuffer data) = memory.readBytes data.bufferBase (usedBuffer data) := by
      obtain ⟨-,-,cookie,-,rfl⟩ := writeTransaction_package small written
      have rest := (Memory.readBytes_parts copied).2
      have front := (Memory.readBytes_parts rest).1
      rwa [Memory.readBytes_length,Memory.readBytes_length] at front
    refine ⟨accepted.mpr ⟨some,none⟩,sent.bufferSize,buffer,?_,?_⟩
    · show (TransactionData.decode (.ofBytes package)).offsetsSize/sizeSize = usedOffsets data
      rw [sent.offsetsSize]
      exact Nat.mul_div_cancel _ (by decide)
    · rw [none]
      rfl

/-- A C library that never runs out of memory. -/
def ample : Platform := ⟨fun _ _ => .done,fun _ _ => .done,fun _ => true⟩

/-- A process with a session for the handle 1, whose stub has the index 3. -/
def connected : Process := ⟨[⟨1,5⟩],[],[(1,3)],0,none⟩

/-- An `IpcIo` of 64 bytes with room for two objects. -/
def fresh : State := ⟨fun _ => 0,ipcIoInit ⟨0,0,0,0,0,0,false,false⟩ 4096 64 2,[]⟩

theorem package_arrives_number :
    ∃ t : State, writeInt32 7 fresh = (some (),t) ∧ ∃ session seq package,
      writeTransaction ample connected t.memory bcTransaction 0 1 0 1 t.io 0 8192 = some (session,seq,package) ∧
      Arrives t.memory t.io package (.ofBytes package) 0 := by
  refine ⟨(writeInt32 7 fresh).2,rfl,?_⟩
  have made : (writeTransaction ample connected (writeInt32 7 fresh).2.memory bcTransaction 0 1 0 1 (writeInt32 7 fresh).2.io 0
    8192).isSome = true := by decide +kernel
  obtain ⟨⟨session,seq,package⟩,written⟩ := Option.isSome_iff_exists.mp made
  have arrives := package_arrives_iff ample connected (writeInt32 7 fresh).2.memory bcTransaction 0 1 0 1 (writeInt32 7 fresh).2.io 0
    8192 (by decide +kernel) (by decide +kernel) (by decide) written (Memory.readBytes_ofBytes package)
  exact ⟨session,seq,package,written,arrives.mpr (by decide +kernel)⟩

/-- A number and an object: the package has one byte for the eight of the offset, and is refused. -/
theorem package_with_object_refused :
    ∃ t : State, (do writeInt32 7; writeRemoteObject ⟨0,0,9⟩ : Io Unit) fresh = (some (),t) ∧ usedOffsets t.io = 1 ∧
      ∃ session seq package,
        writeTransaction ample connected t.memory bcTransaction 0 1 0 1 t.io 0 8192 = some (session,seq,package) ∧
        hasCompletePackage (.ofBytes package) 0 package.length = 0 ∧
        ∀ received base, ¬ Arrives t.memory t.io package received base := by
  let t : State := ((do writeInt32 7; writeRemoteObject ⟨0,0,9⟩ : Io Unit) fresh).2
  have succeeds : ((do writeInt32 7; writeRemoteObject ⟨0,0,9⟩ : Io Unit) fresh).1 = some () := by decide +kernel
  have one : usedOffsets t.io = 1 := by decide +kernel
  have made : (writeTransaction ample connected t.memory bcTransaction 0 1 0 1 t.io 0 8192).isSome = true := by decide +kernel
  obtain ⟨⟨session,seq,package⟩,written⟩ := Option.isSome_iff_exists.mp made
  have small : usedBuffer t.io+usedOffsets t.io*sizeSize ≤ socketMaxBuffSize := by decide +kernel
  have refused : ¬ 0 < hasCompletePackage (.ofBytes package) 0 package.length := by
    intro found
    have none := (((sent_of_written small written).accepted_iff (by decide) small).mp found).2
    rw [one] at none
    cases none
  exact ⟨t,Prod.ext succeeds rfl,one,session,seq,package,written,by omega,fun _ _ arrives => refused arrives.1⟩

end CommunicationIpc.LitePackage
