import CommunicationIpc.Kernel.Translate

/-! From a `MessageParcel` to the package that is sent for it. A fresh package is zero
everywhere; `memcpy_s` and `memmove_s` refuse blocks above `secureMemMaxLen`. -/
namespace CommunicationIpc.Kernel.Marshal
open CommunicationIpc.Library CommunicationIpc.Kernel.Package CommunicationIpc.Kernel.Translate

/-- What a parcel offers: an absent raw data block is empty. -/
structure MessageParcel where
  data : List UInt8
  objectOffsets : List Nat
  rawData : List UInt8

def MessageParcel.empty : MessageParcel := ⟨[],[],[]⟩

def secureMemMaxLen : Nat := 0x7fffffff
/-- `sizeof(binder_buffer_object)`. -/
def binderBufferObjectSize : Nat := 40

def bcSendRawdata : Nat := 0x40046314

def sub64 (left right : Nat) : Nat := wrap64 (left+2^64-right % 2^64)

def constructTransData (totalSize seqNum cmd code flags : Nat) : Memory :=
  let memory : Memory := fun _ => 0
  let memory := memory.write 0 4 totalSize
  let memory := memory.write 4 4 dbinderMagicword
  let memory := memory.write 8 4 supportTokenidVersionNum
  let memory := memory.write 12 4 cmd
  let memory := memory.write 16 4 code
  let memory := memory.write 20 4 flags
  memory.write 32 8 seqNum

def shiftOffsets (base : Nat) : Nat → Nat → Memory → Memory
  | 0,_,memory => memory
  | count+1,j,memory =>
    let next := memory.read (base+(j+1)*binderSize) binderSize
    shiftOffsets base count (j+1) (memory.write (base+j*binderSize) binderSize (sub64 next binderBufferObjectSize))

/-- One turn of the loop in `RemoveDBinderPtrData`. An offset of `2^63` and more points in front of the payload, and a removal there
would go through the header: it is `none`, like one that `memmove_s` refuses. -/
def removePtr (objCount i : Nat) (memory : Memory) : Option Memory :=
  let tr := TransactionData.decode memory
  let base := headerSize+tr.bufferSize
  let delOffset := memory.read (base+i*binderSize) binderSize
  if memory.read (wrap64 (headerSize+delOffset)) 4 ≠ binderTypePtr then some memory
  else
    let memory := shiftOffsets base (objCount-1-i) i memory
    let offsetsSize := sub64 tr.offsetsSize binderSize
    let memory := memory.write 48 8 offsetsSize
    let removeSize := sub64 (sub64 (tr.bufferSize+offsetsSize) delOffset) binderBufferObjectSize
    if removeSize = 0 ∨ secureMemMaxLen < removeSize ∨ 2^63 ≤ delOffset then none
    else
      let memory := memory.writeBytes (headerSize+delOffset)
        (memory.readBytes (headerSize+delOffset+binderBufferObjectSize) removeSize)
      let bufferSize := sub64 tr.bufferSize binderBufferObjectSize
      let memory := memory.write 40 8 bufferSize
      let memory := memory.write 56 8 bufferSize
      let delSize := binderSize+binderBufferObjectSize+flatSessionLen
      let memory := memory.writeBytes (headerSize+bufferSize+offsetsSize) (List.replicate delSize 0)
      some (memory.write 0 4 (tr.sizeOfSelf+2^32-delSize))

/-- The number of objects is taken once, before any of them is removed. -/
def removeDBinderPtrData (memory : Memory) : Option Memory :=
  let objCount := (TransactionData.decode memory).offsetsSize/binderSize
  (List.range objCount).foldlM (fun memory i => removePtr objCount i memory) memory

/-- The same turn with `cutCount`. -/
def cutPtr (objCount i : Nat) (state : Memory × Nat) : Option (Memory × Nat) :=
  let (memory,cutCount) := state
  let base := headerSize+(TransactionData.decode memory).bufferSize
  let delOffset := memory.read (base+i*binderSize) binderSize
  let cutCount := if memory.read (wrap64 (headerSize+delOffset)) 4 = binderTypePtr then wrap32 (cutCount+1) else cutCount
  (removePtr objCount i memory).map (·,cutCount)

/-- `RemoveDBinderPtrData` with its `cutCount`, which is 0 before the call. -/
def removeDBinderPtrDataCount (memory : Memory) : Option (Memory × Nat) :=
  let objCount := (TransactionData.decode memory).offsetsSize/binderSize
  (List.range objCount).foldlM (fun state i => cutPtr objCount i state) (memory,0)

def moveMessageParcel2TransData (sessionOf : Nat → Nat → Nat → Nat → Option Session) (data : MessageParcel) (memory : Memory)
    (status : Int) : Option Memory :=
  let tr := TransactionData.decode memory
  if data.data ≠ [] then
    let bufferSize := data.data.length
    let useSize := wrap32 (tr.sizeOfSelf+2^32-headerSize)
    let table := data.objectOffsets.flatMap (toLE binderSize)
    if useSize < bufferSize+table.length ∨ secureMemMaxLen < useSize then none
    else
      let memory := memory.write 40 8 bufferSize
      let memory := memory.writeBytes headerSize data.data
      let memory := memory.writeBytes (headerSize+bufferSize) table
      let memory := memory.write 48 8 table.length
      let memory := memory.write 56 8 bufferSize
      match removeDBinderPtrData memory with
      | none => none
      | some memory =>
        let tr := TransactionData.decode memory
        if ¬ checkTransactionData tr then none
        else
          match iRemoteObjectTranslateWhenSend sessionOf memory (layoutOf tr) with
          | (false,_) => none
          | (true,sender) => some sender.memory
  else
    let memory := memory.write 20 4 (tr.flags ||| tfStatusCode)
    let memory := memory.write 40 8 binderSize
    let memory := memory.write 48 8 (status % 2^64).toNat
    some (memory.write 56 8 binderSize)

/-- `cookie` is 0 for a reply, the stub index of the session for a request. -/
def processNormalData (sessionOf : Nat → Nat → Nat → Nat → Option Session) (data : MessageParcel)
    (cookie seqNum cmd code flags : Nat) (status : Int) : Option Memory :=
  let dataSize := if 0 < data.data.length then data.data.length else binderSize
  let sendSize := wrap32 (dataSize+headerSize+data.objectOffsets.length*flatSessionLen+data.objectOffsets.length*binderSize)
  let memory := constructTransData sendSize seqNum cmd code flags
  moveMessageParcel2TransData sessionOf data (memory.write 24 8 cookie) status

/-- The package `ProcessRawData` sends ahead, `none` where it cannot be filled. -/
def rawDataPackage (data : MessageParcel) (seqNum : Nat) : Option (List UInt8) :=
  if secureMemMaxLen < data.rawData.length then none
  else
    let memory := constructTransData (wrap32 (headerSize+data.rawData.length)) seqNum bcSendRawdata 0 0
    some (memory.readBytes 0 headerSize ++ data.rawData)

end CommunicationIpc.Kernel.Marshal
