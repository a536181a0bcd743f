import CommunicationIpc.Kernel.Serializer

/-! The functions of the serializer that take a size from their caller, for builds with a `size_t` of 32 and of 64 bits. They return a
pointer; a null pointer is a failure. -/
namespace CommunicationIpc.Kernel.SerializerSizes
open CommunicationIpc.Library CommunicationIpc.Library.Program
open CommunicationIpc.Kernel.Serializer (State Io IpcIo ipcIoAvailable overflows advance alignSz)

inductive Build where
  | bits32
  | bits64
  deriving DecidableEq

def Build.width : Build → Nat
  | .bits32 => 32
  | .bits64 => 64

abbrev SizeT (build : Build) : Type := BitVec build.width

variable {build : Build}

/-- `IPC_IO_ALIGN` of a `size_t`. -/
def ioAlign (sz : SizeT build) : SizeT build := (sz+BitVec.ofNat _ alignSz-1) &&& ~~~(BitVec.ofNat _ (alignSz-1))

def ioPush (size : SizeT build) : Io Nat := do
  let io ← observe State.io
  if ¬ ipcIoAvailable io then overflows
  else if (ioAlign size).toNat > io.bufferLeft then overflows
  else advance (ioAlign size).toNat

def ioPop (size : SizeT build) : Io Nat := do
  let io ← observe State.io
  if ¬ ipcIoAvailable io then overflows
  else if io.bufferLeft < (ioAlign size).toNat then
    update fun s => { s with io := { s.io with bufferLeft := 0 } }
    overflows
  else advance (ioAlign size).toNat

def ioPushUnaligned (size : SizeT build) : Io Nat := do
  let io ← observe State.io
  if ¬ ipcIoAvailable io then overflows
  else if size.toNat > io.bufferLeft then overflows
  else advance size.toNat

def ioPopUnaligned (size : SizeT build) : Io Nat := do
  let io ← observe State.io
  if ¬ ipcIoAvailable io then overflows
  else if io.bufferLeft < size.toNat then
    update fun s => { s with io := { s.io with bufferLeft := 0 } }
    overflows
  else advance size.toNat

def readUint32 (build : Build) : Io UInt32 := do
  let ptr ← @ioPop build (BitVec.ofNat _ 4)
  Serializer.load UInt32 ptr

def readBuffer (size : SizeT build) : Io Nat := if size = 0 then fail else ioPop size

def readRawData (size : SizeT build) : Io Nat :=
  if size = 0 then fail
  else do
    -- what ReadUint32 returns is not looked at, only its result
    let len ← attempt (readUint32 build)
    if len.getD 0 ≠ UInt32.ofNat size.toNat then fail
    else @readBuffer build (BitVec.ofNat _ (len.getD 0).toNat)

/-- A call with a size. -/
inductive Take where
  | ioPush
  | ioPop
  | ioPushUnaligned
  | ioPopUnaligned
  | readBuffer
  | readRawData
  deriving DecidableEq

def Take.run : Take → SizeT build → Io Nat
  | .ioPush => SerializerSizes.ioPush
  | .ioPop => SerializerSizes.ioPop
  | .ioPushUnaligned => SerializerSizes.ioPushUnaligned
  | .ioPopUnaligned => SerializerSizes.ioPopUnaligned
  | .readBuffer => SerializerSizes.readBuffer
  | .readRawData => SerializerSizes.readRawData

end CommunicationIpc.Kernel.SerializerSizes
