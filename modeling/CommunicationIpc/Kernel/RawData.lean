import CommunicationIpc.Kernel.CallingIdentity
import CommunicationIpc.Kernel.Framing
import Mathlib.Logic.Function.Basic

/-! Raw data blocks: `WriteRawData`, `RestoreRawData` and `ReadRawData` of a `MessageParcel`, and the receiving process, whose
`rawData_` is filled by `OnRawDataAvailable` and emptied by the threads that translate transactions. Each section under
`rawDataMutex_` is one step. What the parcel's own reads and writes and the system return is an input; `arrived` is not in the
source: the raw data packages that came, with their socket, sequence number and block. -/
namespace CommunicationIpc.Kernel.RawData
open CommunicationIpc.Library CommunicationIpc.Kernel.Package CommunicationIpc.Kernel.Translate CommunicationIpc.Kernel.Marshal
open CommunicationIpc.Kernel.Framing CommunicationIpc.Kernel.CallingIdentity

def minRawdataSize : Nat := 32*1024

/-- The members of a `MessageParcel` that have to do with raw data; a pointer is what it points to. -/
structure RawParcel where
  writeRawDataFd : Int32
  readRawDataFd : Int32
  kernelMappedWrite : Option (List UInt8)
  kernelMappedRead : Option (List UInt8)
  rawData : Option (List UInt8)
  rawDataSize : Nat
  deriving DecidableEq, Repr

def RawParcel.new : RawParcel := ⟨-1,-1,none,none,none,0⟩

structure WriteResults where
  writeInt32 : Bool
  writeUnpadBuffer : Bool
  ashmemCreate : Int32
  ashmemSetProt : Int32
  mmap : Bool
  writeFileDescriptor : Bool
  memcpyS : Bool

structure ReadResults where
  readInt32 : Int32
  readUnpadBuffer : Option (List UInt8)
  readFileDescriptor : Int32
  ashmemGetSize : Int32
  mmap : Option (List UInt8)

namespace RawParcel

def writeRawData (parcel : RawParcel) (data : Option (List UInt8)) (results : WriteResults) : RawParcel × Bool :=
  match data with
  | none => (parcel,false)
  | some bytes =>
    let size := bytes.length
    if size > maxRawdataSize ∨ size = 0 then (parcel,false)
    else if parcel.kernelMappedWrite.isSome then (parcel,false)
    else if ¬ results.writeInt32 then (parcel,false)
    else if size ≤ minRawdataSize then ({ parcel with rawDataSize := size },results.writeUnpadBuffer)
    else if results.ashmemCreate < 0 then (parcel,false)
    else
      let opened := { parcel with writeRawDataFd := results.ashmemCreate }
      if results.ashmemSetProt < 0 ∨ ¬ results.mmap ∨ ¬ results.writeFileDescriptor ∨ ¬ results.memcpyS then (opened,false)
      else ({ opened with kernelMappedWrite := some bytes, rawDataSize := size },true)

def restoreRawData (parcel : RawParcel) (rawData : List UInt8) : RawParcel × Bool :=
  if parcel.rawData.isSome then (parcel,false)
  else ({ parcel with rawData := some rawData, rawDataSize := rawData.length, writeRawDataFd := 0 },true)

def readRawDataInner (parcel : RawParcel) (size : Nat) (results : ReadResults) : Option (List UInt8) × RawParcel :=
  if parcel.rawData.isSome ∧ parcel.writeRawDataFd = 0 then
    if 0 ≤ results.readFileDescriptor then (none,parcel)
    else if parcel.rawDataSize ≠ size then (none,parcel)
    else (parcel.rawData,parcel)
  else if results.readFileDescriptor < 0 then (none,parcel)
  else
    let opened := { parcel with readRawDataFd := results.readFileDescriptor }
    if results.ashmemGetSize < 0 ∨ results.ashmemGetSize.toInt.toNat < size then (none,opened)
    else
      match results.mmap with
      | none => (none,opened)
      | some mapped => (some mapped,{ opened with kernelMappedRead := some mapped, rawDataSize := size })

/-- `static_cast<size_t>` of an `int32_t`. -/
def toSize (value : Int32) : Nat := (value.toInt % 2^64).toNat

def readRawData (parcel : RawParcel) (size : Nat) (results : ReadResults) : Option (List UInt8) × RawParcel :=
  if size = 0 then (none,parcel)
  else
    let bufferSize := toSize results.readInt32
    if bufferSize ≠ size then (none,parcel)
    else if bufferSize ≤ minRawdataSize then (results.readUnpadBuffer,{ parcel with rawDataSize := size })
    else parcel.readRawDataInner size results

def getRawData (parcel : RawParcel) : Option (List UInt8) :=
  parcel.rawData <|> parcel.kernelMappedWrite <|> parcel.kernelMappedRead

/-- The bytes that `ProcessRawData` sends ahead: `GetRawDataSize` of them, from `GetRawData`. -/
def offered (parcel : RawParcel) : List UInt8 := (parcel.getRawData.getD []).take parcel.rawDataSize

end RawParcel

/-- `std::to_string` of an `int32_t`. -/
def toString32 (value : Int32) : List UInt8 :=
  let digits := trimZeros (decimal 10 value.toInt.natAbs)
  if value < 0 then 45 :: digits else digits

def rawDataKey (socketId : Int32) (seqNumber : UInt64) : List UInt8 := toString32 socketId ++ 95 :: toString64 seqNumber

/-- How many objects the loop of `IRemoteObjectTranslateWhenRcv` hands to `TranslateRawData`. -/
def rawObjects (handleOf : Session → Nat) (layout : Layout) : Nat → Nat → Nat → Nat → Receiver → Nat
  | 0,_,_,_,_ => 0
  | count+1,i,preOffset,preObjectSize,receiver =>
    let offset := receiver.memory.read (layout.entryAddress i) binderSize
    match isValidRemoteObjectOffset receiver.memory layout offset i preOffset preObjectSize with
    | none => 0
    | some sizeOfObject =>
      let object := layout.dataBuffer+offset
      let own := if receiver.memory.read object 4 = binderTypeFdr then 1 else 0
      match receiver.receiveObject handleOf layout i object with
      | (false,_) => own
      | (true,next) => own+rawObjects handleOf layout count (i+1) offset sizeOfObject next

/-- Where `ProcessTransaction` stands, with its data parcel and the raw data objects that it has still to translate. -/
inductive Place where
  | translating (left : Nat) (parcel : RawParcel)
  | restoring (left : Nat) (parcel : RawParcel) (found : List UInt8)
  | serving (parcel : RawParcel)
  | done
  deriving DecidableEq, Repr

structure Thread where
  socketId : Int32
  package : List UInt8
  place : Place
  deriving DecidableEq, Repr

namespace Thread

def memory (thread : Thread) : Memory := .ofBytes thread.package

def seqNumber (thread : Thread) : UInt64 := UInt64.ofNat (TransactionData.decode thread.memory).seqNumber

end Thread

structure System where
  rawData : List UInt8 → Option (List UInt8)
  threads : List Thread
  arrived : List (Int32 × UInt64 × List UInt8)

def System.new : System := ⟨fun _ => none,[],[]⟩

/-- `hasSession` is whether the socket has a session (`CheckMessageVaildity`), `succeeds` whether `ProcessTransaction` gets from
the translation to the stub. -/
inductive Event where
  | onMessageAvailable (socketId : Int32) (data : List UInt8) (hasSession : Bool)
  | thread (thread : Nat) (succeeds : Bool)
  deriving DecidableEq, Repr

/-- A raw data package that fills a buffer, with its sequence number and its block. -/
def rawOf (data : List UInt8) : Option (UInt64 × List UInt8) :=
  let tr := TransactionData.decode (.ofBytes data)
  if headerSize ≤ data.length ∧ tr.magic = dbinderMagicword ∧ tr.cmd = bcSendRawdata ∧ tr.sizeOfSelf = data.length then
    some (UInt64.ofNat tr.seqNumber,data.drop headerSize)
  else none

namespace System

def attachRawData (system : System) (socketId : Int32) (seqNumber : UInt64) (rawData : List UInt8) : System :=
  { system with rawData := Function.update system.rawData (rawDataKey socketId seqNumber) (some rawData) }

def detachRawData (system : System) (socketId : Int32) (seqNumber : UInt64) : System :=
  { system with rawData := Function.update system.rawData (rawDataKey socketId seqNumber) none }

def queryRawData (system : System) (socketId : Int32) (seqNumber : UInt64) : Option (List UInt8) :=
  system.rawData (rawDataKey socketId seqNumber)

def onRawDataAvailable (system : System) (socketId : Int32) (seqNumber : UInt64) (data : List UInt8) (dataSize : Nat) : System :=
  if dataSize < headerSize then system
  else
    let rawDataSize := dataSize-headerSize
    if 0 < rawDataSize ∧ rawDataSize ≤ maxRawdataSize-headerSize then
      system.attachRawData socketId seqNumber ((data.drop headerSize).take rawDataSize)
    else system

section Server
variable (handleOf : Session → Nat)

/-- A transaction goes to a data thread, which copies it. -/
def startProcessLoop (socketId : Int32) (hasSession : Bool) (system : System) (package : List UInt8) : System :=
  let memory := Memory.ofBytes package
  let tr := TransactionData.decode memory
  if tr.cmd = bcTransaction ∧ hasSession = true then
    let objects := rawObjects handleOf (layoutOf tr) (layoutOf tr).objCount 0 0 0 ⟨memory,[],[]⟩
    { system with threads := system.threads ++ [⟨socketId,package,.translating objects .new⟩] }
  else system

def log (system : System) (socketId : Int32) (data : List UInt8) : System :=
  match rawOf data with
  | some (seqNumber,block) => { system with arrived := (socketId,seqNumber,block) :: system.arrived }
  | none => system

def onMessageAvailable (system : System) (socketId : Int32) (data : List UInt8) (hasSession : Bool) : Option System :=
  -- the length is a 32-bit number
  if 2^32 ≤ data.length then none
  else
    (Framing.onMessageAvailable (data.length+1) socketId.toInt (some (.ofBytes data)) (UInt32.ofNat data.length)).map fun delivery =>
      match delivery.rawData with
      | some (seqNumber,packageSize) => (system.log socketId data).onRawDataAvailable socketId (UInt64.ofNat seqNumber) data packageSize
      | none => (delivery.started.map (Slice.bytes (.ofBytes data))).foldl (startProcessLoop handleOf socketId hasSession)
        (system.log socketId data)

def moveThread (system : System) (thread : Nat) (old : Thread) (place : Place) : System :=
  { system with threads := system.threads.set thread { old with place := place } }

def stepThread (system : System) (thread : Nat) (succeeds : Bool) : Option System :=
  match system.threads[thread]? with
  | none => none
  | some old =>
    match old.place with
    | .translating 0 parcel =>
      if (Translate.processTransaction handleOf old.memory).1 && succeeds then some (system.moveThread thread old (.serving parcel))
      else some (system.moveThread thread old .done)
    | .translating (left+1) parcel =>
      match system.queryRawData old.socketId old.seqNumber with
      | none => some (system.moveThread thread old (.translating left parcel))
      | some found => some (system.moveThread thread old (.restoring left parcel found))
    | .restoring left parcel found =>
      some ((system.detachRawData old.socketId old.seqNumber).moveThread thread old
        (.translating left (parcel.restoreRawData found).1))
    | .serving parcel =>
      -- the stub has returned
      if parcel.getRawData.isSome then
        some ((system.detachRawData old.socketId old.seqNumber).moveThread thread old .done)
      else some (system.moveThread thread old .done)
    | .done => none

def step (system : System) : Event → Option System
  | .onMessageAvailable socketId data hasSession => system.onMessageAvailable handleOf socketId data hasSession
  | .thread thread succeeds => system.stepThread handleOf thread succeeds

end Server

end System

end CommunicationIpc.Kernel.RawData
