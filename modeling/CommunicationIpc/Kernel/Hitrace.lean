import CommunicationIpc.Kernel.BinderTransaction
import CommunicationIpc.Kernel.CommandStream

/-! `HitraceInvoker`: the trace identifier that a sender appends to the data of a transaction, and the receiver takes off.
The parcel to be sent is its bytes; `reads` of the one received is not in the source: the ranges of its data that were read. -/
namespace CommunicationIpc.Kernel.Hitrace
open CommunicationIpc.Library CommunicationIpc.Kernel.BinderOutput
open CommunicationIpc.Kernel.BinderTransaction (tfHitrace)
open CommunicationIpc.Kernel.CommandStream (Parcel.writeBuffer Parcel.rewindWrite)

/-- `HITRACE_ID_LEN`, and `sizeof(HiTraceIdStruct)`. -/
def hitraceIdLen : Nat := 16

def paddedSizeOfParcel : Nat := 4

structure HiTraceId where
  bytes : List UInt8
  size : bytes.length = hitraceIdLen
  deriving DecidableEq

def HiTraceId.ofBytes (bytes : List UInt8) : Option HiTraceId := if size : bytes.length = hitraceIdLen then some ⟨bytes,size⟩ else none

/-- The identifier of the calling thread. -/
structure ThreadTrace where
  isValid : Bool
  includesAsync : Bool

/-- What a call finds: whether the parcel is an owner, the identifier that `CreateSpan` makes, what `ToBytes` returns for it, and
whether the two writes succeed. -/
structure Sending where
  isOwner : Bool
  childId : HiTraceId
  toBytes : Nat
  writeBuffer : Bool
  writeUint8 : Bool

def isClientTraced (handle : Int32) (flags : UInt32) (traceId : ThreadTrace) : Bool :=
  traceId.isValid && handle != 0 && if flags &&& tfOneWay ≠ 0 then traceId.includesAsync else true

def writeUint8 (data : List UInt8) (value : Nat) : List UInt8 := data ++ toLE 4 (value % 256)

/-- With the flags. -/
def traceClientSend (handle : Int32) (data : List UInt8) (flags : UInt32) (traceId : ThreadTrace) (sending : Sending) :
    List UInt8 × UInt32 :=
  if isClientTraced handle flags traceId ∧ sending.isOwner then
    if sending.toBytes ≠ hitraceIdLen then (data,flags)
    else if ¬ sending.writeBuffer then (Parcel.rewindWrite data data.length,flags)
    else
      let written := Parcel.writeBuffer data sending.childId.bytes
      if ¬ sending.writeUint8 then (Parcel.rewindWrite written data.length,flags)
      else (writeUint8 written (written.length-data.length),flags ||| tfHitrace)
  else if flags &&& tfHitrace ≠ 0 then (data,flags &&& ~~~tfHitrace)
  else (data,flags)

structure Parcel where
  bytes : List UInt8
  readCursor : Nat
  reads : List (Nat × Nat)
  deriving DecidableEq

namespace Parcel

def parseFrom (bytes : List UInt8) (position : Fin (bytes.length+1)) : Parcel := ⟨bytes,position,[]⟩

def dataSize (parcel : Parcel) : Nat := parcel.bytes.length

def rewindRead (parcel : Parcel) (position : Nat) : Parcel :=
  if parcel.dataSize < position then parcel else { parcel with readCursor := position }

/-- For sizes that do not exceed what the parcel holds. -/
def setDataSize (parcel : Parcel) (size : Nat) : Parcel := { parcel with bytes := parcel.bytes.take size }

def readUnpadBuffer (parcel : Parcel) (length : Nat) : Option (List UInt8) × Parcel :=
  if parcel.dataSize < parcel.readCursor+length then (none,parcel)
  else
    (some ((parcel.bytes.drop parcel.readCursor).take length),
      { parcel with readCursor := parcel.readCursor+length, reads := parcel.reads ++ [(parcel.readCursor,length)] })

/-- The low byte of a word of 4 bytes. -/
def readUint8 (parcel : Parcel) : Nat × Parcel :=
  match parcel.readUnpadBuffer 4 with
  | (some word,next) => (ofLE word % 256,next)
  | (none,next) => (0,next)

/-- How many of the bytes that are left `ReadString16` takes. -/
structure StringReader where
  taken : List UInt8 → Nat
  taken_le : ∀ left, taken left ≤ left.length

/-- Two words and a string. -/
def readInterfaceToken (reader : StringReader) (parcel : Parcel) : Parcel :=
  let policy := (parcel.readUnpadBuffer 4).2
  let source := (policy.readUnpadBuffer 4).2
  (source.readUnpadBuffer (reader.taken (source.bytes.drop source.readCursor))).2

end Parcel

def recoveryDataAndFlag (data : Parcel) (flags : UInt32) (oldReadPosition idLen : Nat) : Parcel × UInt32 :=
  if data.dataSize < idLen+paddedSizeOfParcel then (data,flags)
  else
    ((data.rewindRead oldReadPosition).setDataSize (data.dataSize-paddedSizeOfParcel-idLen),flags &&& ~~~tfHitrace)

/-- `traceId` is what `SetId` is called with. -/
structure Received where
  isServerTraced : Bool
  traceId : Option HiTraceId
  data : Parcel
  flags : UInt32

def traceServerReceive (reader : Parcel.StringReader) (data : Parcel) (flags : UInt32) : Received :=
  if flags &&& tfHitrace = 0 then ⟨false,none,data,flags⟩
  else
    let oldReadPosition := data.readCursor
    if data.dataSize < paddedSizeOfParcel then ⟨false,none,data,flags⟩
    else
      let (idLen,read) := (data.rewindRead (data.dataSize-paddedSizeOfParcel)).readUint8
      if hitraceIdLen ≤ idLen ∧ idLen ≤ data.dataSize-paddedSizeOfParcel then
        match (read.rewindRead (read.dataSize-paddedSizeOfParcel-idLen)).readUnpadBuffer hitraceIdLen with
        | (none,found) =>
          let (recovered,newFlags) := recoveryDataAndFlag found flags oldReadPosition idLen
          ⟨false,none,recovered,newFlags⟩
        | (some idBytes,found) =>
          let token := (found.rewindRead oldReadPosition).readInterfaceToken reader
          let (recovered,newFlags) := recoveryDataAndFlag token flags oldReadPosition idLen
          ⟨true,HiTraceId.ofBytes idBytes,recovered,newFlags⟩
      else
        let (recovered,newFlags) := recoveryDataAndFlag read flags oldReadPosition idLen
        ⟨true,none,recovered,newFlags⟩

end CommunicationIpc.Kernel.Hitrace
