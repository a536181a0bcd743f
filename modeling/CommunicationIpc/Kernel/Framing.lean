import CommunicationIpc.Kernel.Marshal

/-! `OnMessageAvailable`: a received buffer is cut into packages, once in the databus
invoker and once in the C invoker of small systems. A loop that has used up its fuel has
not returned. -/
namespace CommunicationIpc.Kernel.Framing
open CommunicationIpc.Library CommunicationIpc.Kernel.Package CommunicationIpc.Kernel.Translate CommunicationIpc.Kernel.Marshal

def maxRawdataSize : Nat := 128*1024*1024

/-- The second and third argument of a `StartProcessLoop` call, the first of them relative to `data`. -/
structure Slice where
  offset : Nat
  size : Nat
  deriving DecidableEq, Repr

def Slice.bytes (memory : Memory) (slice : Slice) : List UInt8 := memory.readBytes slice.offset slice.size

/-- What became of a buffer: the `OnRawDataAvailable` call with its sequence number and size, and
the `StartProcessLoop` calls, oldest first. -/
structure Delivery where
  rawData : Option (Nat × Nat)
  started : List Slice
  deriving DecidableEq, Repr

def ignored : Delivery := ⟨none,[]⟩

def hasRawDataPackage (memory : Memory) (len : Nat) : Nat :=
  if len < headerSize then 0
  else
    let tr := TransactionData.decode memory
    if tr.magic = dbinderMagicword ∧ tr.cmd = bcSendRawdata ∧ tr.sizeOfSelf = len then
      if tr.sizeOfSelf > maxRawdataSize then maxRawdataSize else tr.sizeOfSelf
    else 0

/-- The `do` loop; its body comes first and the condition is tested on the advanced cursor. -/
def readPackages (memory : Memory) (len : Nat) : Nat → Nat → Option (List Slice)
  | 0,_ => none
  | fuel+1,readSize =>
    let packageSize := hasCompletePackage (memory.shift readSize) (len-readSize)
    if packageSize > 0 then
      let next := wrap32 (readSize+packageSize)
      if next+headerSize < len then
        (readPackages memory len fuel next).map (⟨readSize,packageSize⟩ :: ·)
      else some [⟨readSize,packageSize⟩]
    else some []

def onMessageAvailable (fuel : Nat) (socketId : Int) (data : Option Memory) (len : UInt32) : Option Delivery :=
  match data with
  | none => some ignored
  | some memory =>
    if socketId ≤ 0 ∨ len.toNat > maxRawdataSize ∨ len.toNat < headerSize then some ignored
    else
      let packageSize := hasRawDataPackage memory len.toNat
      if packageSize > 0 then some ⟨some ((TransactionData.decode memory).seqNumber,packageSize),[]⟩
      else (readPackages memory len.toNat fuel 0).map (⟨none,·⟩)

namespace Lite

/-- Here `dbinder_transaction_data` ends in a pointer, behind the fields it shares with the other side. -/
def headerSize : Nat := 72
/-- `sizeof(size_t)`. -/
def sizeSize : Nat := 8

/-- The commands of this invoker, which are not those of the other. -/
def bcTransaction : Nat := 1076388608
def bcReply : Nat := 1076388609

def checkTransactionData (tr : TransactionData) : Bool :=
  if tr.sizeOfSelf = 0 ∨ tr.sizeOfSelf > socketMaxBuffSize+headerSize ∨ tr.bufferSize > socketMaxBuffSize ∨
      tr.bufferSize = 0 ∨ tr.offsets ≠ tr.bufferSize ∨ tr.sizeOfSelf < wrap64 (headerSize+tr.bufferSize) then false
  else if hasFlag tr.flags tfStatusCode ∧ tr.offsets ≠ sizeSize then false
  else if ¬ hasFlag tr.flags tfStatusCode ∧ tr.offsetsSize > tr.sizeOfSelf-headerSize-tr.bufferSize then false
  else true

def hasCompletePackage (memory : Memory) (readCursor len : Nat) : Nat :=
  let tr := TransactionData.decode (memory.shift readCursor)
  -- the sum of the two 32-bit values is a 32-bit value again
  if tr.magic = dbinderMagicword ∧ tr.sizeOfSelf ≤ socketMaxBuffSize+headerSize ∧
      wrap32 (readCursor+tr.sizeOfSelf) ≤ len ∧ checkTransactionData tr then tr.sizeOfSelf
  else 0

def readPackages (memory : Memory) (len : Nat) : Nat → Nat → Option (List Slice)
  | 0,_ => none
  | fuel+1,readSize =>
    if readSize+headerSize < len then
      let packageSize := hasCompletePackage memory readSize len
      if packageSize > 0 then
        -- `data` is passed on as it is, whatever the cursor
        (readPackages memory len fuel (wrap32 (readSize+packageSize))).map (⟨0,packageSize⟩ :: ·)
      else some []
    else some []

def onMessageAvailable (fuel : Nat) (sessionId : Int) (data : Option Memory) (len : UInt32) : Option (List Slice) :=
  match data with
  | none => some []
  | some memory =>
    if sessionId < 0 ∨ len.toNat < headerSize then some []
    else readPackages memory len.toNat fuel 0

end Lite

end CommunicationIpc.Kernel.Framing
