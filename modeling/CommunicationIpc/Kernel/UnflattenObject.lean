import CommunicationIpc.Kernel.Hitrace
import CommunicationIpc.Kernel.Marshal

/-! `BinderInvoker::UnflattenObject`: an object read from a received parcel, with the negotiation data that the buffer in front of
it may point to. The bytes are the sender's; `offsets` is the table of the driver. `follows` is not in the source: the reads
through addresses that lie in the data. -/
namespace CommunicationIpc.Kernel.UnflattenObject
open CommunicationIpc.Library CommunicationIpc.Kernel.Hitrace
open CommunicationIpc.Kernel.Translate (objectHeaderSize flatBinderObjectSize binderTypePtr binderTypeBinder binderTypeHandle)
open CommunicationIpc.Kernel.Marshal (binderBufferObjectSize)
open CommunicationIpc.Kernel.BinderTransaction (negotiationDataSize)

def binderBufferFlagHasDbinder : Nat := 31

def headerType (bytes : List UInt8) : Nat := ofLE (bytes.take 4)

structure BinderBufferObject where
  flags : Nat
  buffer : Nat
  length : Nat

def BinderBufferObject.decode (bytes : List UInt8) : BinderBufferObject :=
  ⟨ofLE ((bytes.drop 4).take 4),ofLE ((bytes.drop 8).take 8),ofLE ((bytes.drop 16).take 8)⟩

structure FlatBinderObject where
  type : Nat
  handle : UInt32
  cookie : UInt64

def FlatBinderObject.decode (bytes : List UInt8) : FlatBinderObject :=
  ⟨headerType bytes,UInt32.ofNat (ofLE ((bytes.drop 8).take 4)),UInt64.ofNat (ofLE ((bytes.drop 16).take 8))⟩

/-- Bytes read at an address that the object at a position holds. -/
structure Follow where
  position : Nat
  address : Nat
  length : Nat
  deriving DecidableEq

structure Unflattened where
  dbinderData : Option (List UInt8)
  parcel : Parcel
  follows : List Follow

def unFlattenDBinderObject (memory : Memory) (parcel : Parcel) : Unflattened :=
  let offset := parcel.readCursor
  match parcel.readUnpadBuffer objectHeaderSize with
  | (none,parcel) => ⟨none,parcel,[]⟩
  | (some hdr,parcel) =>
    if headerType hdr ≠ binderTypePtr then ⟨none,parcel.rewindRead offset,[]⟩
    else
      match (parcel.rewindRead offset).readUnpadBuffer binderBufferObjectSize with
      | (none,parcel) => ⟨none,parcel,[]⟩
      | (some bytes,parcel) =>
        let obj := BinderBufferObject.decode bytes
        if obj.flags.testBit binderBufferFlagHasDbinder = false ∨ obj.length ≠ negotiationDataSize then
          ⟨none,parcel.rewindRead offset,[]⟩
        else if obj.buffer = 0 then ⟨none,parcel.rewindRead offset,[]⟩
        else ⟨some (memory.readBytes obj.buffer negotiationDataSize),parcel,[⟨offset,obj.buffer,negotiationDataSize⟩]⟩

def checkOffsets (offsets : List Nat) (parcel : Parcel) : Bool := offsets.contains parcel.readCursor

/-- What the process knows of its objects; an object is its address. `alive`: there is an `IPCProcessSkeleton`. -/
structure Objects where
  single : Bool
  alive : Bool
  isContainsObject : UInt64 → Bool
  findOrNewObject : UInt32 → Option (List UInt8) → Option UInt64

structure Result where
  remoteObject : Option UInt64
  parcel : Parcel
  follows : List Follow

/-- The library `ipc_single` looks for no negotiation data. -/
def findDBinderData (objects : Objects) (memory : Memory) (parcel : Parcel) : Unflattened :=
  if objects.single then ⟨none,parcel,[]⟩ else unFlattenDBinderObject memory parcel

def unflattenObject (objects : Objects) (memory : Memory) (offsets : List Nat) (parcel : Parcel) : Result :=
  let first := findDBinderData objects memory parcel
  if ¬ checkOffsets offsets first.parcel then ⟨none,first.parcel,first.follows⟩
  else
    match first.parcel.readUnpadBuffer flatBinderObjectSize with
    | (none,parcel) => ⟨none,parcel,first.follows⟩
    | (some buffer,parcel) =>
      let flat := FlatBinderObject.decode buffer
      let remoteObject :=
        if ¬ objects.alive then none
        else if flat.type = binderTypeBinder then if objects.isContainsObject flat.cookie then some flat.cookie else none
        else if flat.type = binderTypeHandle then objects.findOrNewObject flat.handle first.dbinderData
        else none
      ⟨remoteObject,parcel,first.follows⟩

end CommunicationIpc.Kernel.UnflattenObject
