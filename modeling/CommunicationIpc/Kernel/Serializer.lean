import CommunicationIpc.Kernel.Framing
import CommunicationIpc.Library.Program
import CommunicationIpc.Library.Word
import Mathlib.Logic.Function.Basic

/-! The serializer of small systems: typed values written to and read from an `IpcIo`, and the
objects of the Linux and of the LiteOS-A build. Pointers are addresses in one memory, 0 is the null
pointer. A failed call returns false, null, 0 or -1, here it fails. `float` and `double` are their
bits. `accesses` is not in the source: the ranges behind an `IpcIo` that the functions touch. -/
namespace CommunicationIpc.Kernel.Serializer
open CommunicationIpc.Library CommunicationIpc.Kernel.Package CommunicationIpc.Kernel.Translate
open CommunicationIpc.Kernel.Framing.Lite (sizeSize)

def maxIoSize : Nat := 8192
def maxObjNum : Nat := 32
def alignSz : Nat := 4

/-- `IPC_IO_ALIGN` of a `size_t`. -/
def ioAlign (sz : Nat) : Nat := wrap64 (sz+alignSz-1)/alignSz*alignSz

/-- Of `flag` the bits `IPC_IO_INITIALIZED` and `IPC_IO_OVERFLOW`. -/
structure IpcIo where
  bufferBase : Nat
  offsetsBase : Nat
  bufferCur : Nat
  offsetsCur : Nat
  bufferLeft : Nat
  offsetsLeft : Nat
  initialized : Bool
  overflow : Bool
  deriving DecidableEq, Repr

def ipcIoInit (io : IpcIo) (buffer bufferSize maxobjects : Nat) : IpcIo :=
  if buffer = 0 ∨ bufferSize = 0 ∨ bufferSize > maxIoSize ∨ maxobjects > maxObjNum then io
  else
    let objectsSize := maxobjects*sizeSize
    if objectsSize > bufferSize then { io with initialized := false, overflow := true, bufferLeft := 0, offsetsLeft := 0 }
    else ⟨buffer+objectsSize,buffer,buffer+objectsSize,buffer,bufferSize-objectsSize,maxobjects,true,false⟩

def ipcIoAvailable (io : IpcIo) : Bool := io.initialized && !io.overflow

/-- What `memcpy_s` or `memset_s` does: the whole operation, nothing, or clear the destination. -/
inductive Secure where
  | done
  | refused
  | cleared
  deriving DecidableEq, Repr

/-- The C library: `memcpy_s` and `memset_s` by `destMax` and `count`, and whether `malloc` gives a block of a size. -/
structure Platform where
  memcpyS : Nat → Nat → Secure
  memsetS : Nat → Nat → Secure
  malloc : Nat → Bool

structure State where
  memory : Memory
  io : IpcIo
  accesses : List (Nat × Nat)

abbrev Io (α : Type) := Program State α

open Program

def touch (address width : Nat) : Io Unit := update fun s => { s with accesses := s.accesses ++ [(address,width)] }

def put (address : Nat) (bytes : List UInt8) : Io Unit := do
  touch address bytes.length
  update fun s => { s with memory := s.memory.writeBytes address bytes }

def store {α : Type} [Word α] (address : Nat) (value : α) : Io Unit := put address (Word.bytes value)

def load (α : Type) [Word α] (address : Nat) : Io α := do
  touch address (Word.width α)
  observe fun s => s.memory.load α address

def setOverflow : Io Unit := update fun s => { s with io := { s.io with overflow := true } }

/-- The end of a call that ran out of space. -/
def overflows {α : Type} : Io α := do
  setOverflow
  fail

def advance (size : Nat) : Io Nat := fun s =>
  (some s.io.bufferCur,
    { s with io := { s.io with bufferCur := s.io.bufferCur+size, bufferLeft := s.io.bufferLeft-size } })

def ioPush (size : Nat) : Io Nat := do
  let io ← observe State.io
  if ¬ ipcIoAvailable io then overflows
  else if ioAlign size > io.bufferLeft then overflows
  else advance (ioAlign size)

def ioPop (size : Nat) : Io Nat := do
  let io ← observe State.io
  if ¬ ipcIoAvailable io then overflows
  else if io.bufferLeft < ioAlign size then
    update fun s => { s with io := { s.io with bufferLeft := 0 } }
    overflows
  else advance (ioAlign size)

def ioPushUnaligned (size : Nat) : Io Nat := do
  let io ← observe State.io
  if ¬ ipcIoAvailable io then overflows
  else if size > io.bufferLeft then overflows
  else advance size

def ioPopUnaligned (size : Nat) : Io Nat := do
  let io ← observe State.io
  if ¬ ipcIoAvailable io then overflows
  else if io.bufferLeft < size then
    update fun s => { s with io := { s.io with bufferLeft := 0 } }
    overflows
  else advance size

section Platform
variable (platform : Platform)

/-- A block operation that sets the overflow flag where it does not return `EOK`. -/
def secured (outcome : Secure) (ptr destMax : Nat) (bytes : List UInt8) : Io Unit :=
  match outcome with
  | .done => put ptr bytes
  | .refused => overflows
  | .cleared => do
    put ptr (List.replicate destMax 0)
    overflows

def memcpyS (ptr destMax : Nat) (source : List UInt8) : Io Unit :=
  secured (platform.memcpyS destMax source.length) ptr destMax source

def memsetS (ptr destMax count : Nat) : Io Unit :=
  secured (platform.memsetS destMax count) ptr destMax (List.replicate count 0)

/-! Scalars. -/

def writeWord {α : Type} [Word α] (value : α) : Io Unit := do
  let ptr ← ioPush (Word.width α)
  store ptr value

def writeWordUnaligned {α : Type} [Word α] (value : α) : Io Unit := do
  let ptr ← ioPushUnaligned (Word.width α)
  store ptr value

def writeInt32 (value : Int32) : Io Unit := writeWord value
def writeUint32 (value : UInt32) : Io Unit := writeWord value
def writeBool (value : Bool) : Io Unit := writeInt32 (if value then 1 else 0)
def writeBoolUnaligned (value : Bool) : Io Unit := writeWordUnaligned value
def writePointer (value : UInt64) : Io Unit := writeWord value
def writeInt8 (value : Int8) : Io Unit := writeInt32 value.toInt32
def writeInt8Unaligned (value : Int8) : Io Unit := writeWordUnaligned value
def writeUint8 (value : UInt8) : Io Unit := writeUint32 value.toUInt32
def writeUint8Unaligned (value : UInt8) : Io Unit := writeWordUnaligned value
def writeInt16 (value : Int16) : Io Unit := writeInt32 value.toInt32
def writeInt16Unaligned (value : Int16) : Io Unit := writeWordUnaligned value
def writeUint16 (value : UInt16) : Io Unit := writeUint32 value.toUInt32
def writeUint16Unaligned (value : UInt16) : Io Unit := writeWordUnaligned value
def writeInt64 (value : Int64) : Io Unit := writeWord value
def writeUint64 (value : UInt64) : Io Unit := writeWord value
def writeFloat (value : UInt32) : Io Unit := writeWord value
def writeDouble (value : UInt64) : Io Unit := writeWord value

def readWord (α : Type) [Word α] : Io α := do
  let ptr ← ioPop (Word.width α)
  load α ptr

def readWordUnaligned (α : Type) [Word α] : Io α := do
  let ptr ← ioPopUnaligned (Word.width α)
  load α ptr

def readBool : Io Bool := readWord Bool
def readBoolUnaligned : Io Bool := readWordUnaligned Bool
def readPointer : Io UInt64 := readWord UInt64
def readInt8 : Io Int8 := readWord Int8
def readInt8Unaligned : Io Int8 := readWordUnaligned Int8
def readUint8 : Io UInt8 := readWord UInt8
def readUInt8Unaligned : Io UInt8 := readWordUnaligned UInt8
def readInt16 : Io Int16 := readWord Int16
def readInt16Unaligned : Io Int16 := readWordUnaligned Int16
def readUint16 : Io UInt16 := readWord UInt16
def readUInt16Unaligned : Io UInt16 := readWordUnaligned UInt16
def readInt32 : Io Int32 := readWord Int32
def readUint32 : Io UInt32 := readWord UInt32
def readInt64 : Io Int64 := readWord Int64
def readUint64 : Io UInt64 := readWord UInt64
def readFloat : Io UInt32 := readWord UInt32
def readDouble : Io UInt64 := readWord UInt64

/-! Strings and blocks. A pointer that is returned comes with the length its block was read with. -/

/-- `value` is the memory from the argument on. -/
def writeString (value : List UInt8) : Io Unit := do
  let str := cString value
  let len := min str.length maxIoSize
  if len = maxIoSize then overflows
  else
    writeUint32 (.ofNat len)
    let ptr ← ioPush (len+1)
    memsetS platform ptr (ioAlign (len+1)) (ioAlign (len+1))
    memcpyS platform ptr (ioAlign (len+1)) (str ++ [0])

def readString : Io (Nat × Nat) := do
  let value ← readUint32
  if value.toNat > maxIoSize then fail
  else
    let ptr ← ioPop (value.toNat+1)
    pure (ptr,value.toNat)

def writeBufferAddTerminator (value : List UInt8) (size sizeType : Nat) : Io Unit :=
  if size < sizeType then fail
  else if size > maxIoSize then overflows
  else do
    let desireCapacity := ioAlign size
    let ptr ← ioPush desireCapacity
    memcpyS platform ptr desireCapacity (value.take (size-sizeType))
    memsetS platform (ptr+(size-sizeType)) (desireCapacity-size+sizeType) (desireCapacity-size+sizeType)

def writeString16 (value : List UInt16) : Io Unit :=
  if value.length = 0 then fail
  else
    let desireCapacity := wrap64 ((value.length+1)*2)
    if desireCapacity > maxIoSize then overflows
    else do
      writeUint32 (.ofNat value.length)
      writeBufferAddTerminator platform (Word.array value) desireCapacity 2

def writeInterfaceToken (name : List UInt16) : Io Unit :=
  if name.length = 0 then fail
  else if wrap64 ((name.length+1)*2) > maxIoSize then overflows
  else writeString16 platform name

/-- The body of `ReadString16` and of `ReadInterfaceToken`. -/
def readString16 : Io (Nat × Nat) := do
  let len ← readUint32
  if len.toNat > maxIoSize/2-1 then fail
  else
    let ptr ← ioPop ((len.toNat+1)*2)
    let last ← load UInt16 (ptr+len.toNat*2)
    if last = 0 then pure (ptr,len.toNat) else fail

def readInterfaceToken : Io (Nat × Nat) := readString16

def writeBuffer (data : List UInt8) : Io Unit :=
  if data.length = 0 then fail
  else if data.length > maxIoSize then overflows
  else do
    let desireCapacity := ioAlign data.length
    let ptr ← ioPush desireCapacity
    memcpyS platform ptr desireCapacity data
    memsetS platform (ptr+data.length) (desireCapacity-data.length) (desireCapacity-data.length)

def readBuffer (size : UInt64) : Io (Nat × Nat) :=
  if size = 0 then fail
  else do
    let ptr ← ioPop size.toNat
    pure (ptr,size.toNat)

def writeRawData (data : List UInt8) : Io Unit :=
  if data.length = 0 then fail
  else if data.length > maxIoSize then overflows
  else do
    writeUint32 (.ofNat data.length)
    writeBuffer platform data

def readRawData (size : UInt64) : Io (Nat × Nat) :=
  if size = 0 then fail
  else do
    -- what ReadUint32 returns is not looked at, only its result
    let len ← attempt readUint32
    if len.getD 0 ≠ size.toUInt32 then fail
    else readBuffer (len.getD 0).toUInt64

/-! Vectors: a 32-bit count and the elements, packed, or each of them pushed for itself. -/

def writeVector {α : Type} [Word α] (val : List α) : Io Unit :=
  if val.length = 0 then fail
  else do
    writeUint32 (.ofNat val.length)
    let desireCapacity := wrap64 (val.length*Word.width α)
    let ptr ← ioPushUnaligned desireCapacity
    memcpyS platform ptr desireCapacity ((Word.array val).take desireCapacity)

def writeEach {α : Type} (write : α → Io Unit) (val : List α) : Io Unit :=
  if val.length = 0 then fail
  else do
    writeUint32 (.ofNat val.length)
    let _ ← forEach write val
    pure ()

def writeBoolVector (val : List Bool) : Io Unit := writeEach writeBool val
def writeInt8Vector (val : List Int8) : Io Unit := writeVector platform val
def writeInt16Vector (val : List Int16) : Io Unit := writeEach writeInt16 val
def writeInt32Vector (val : List Int32) : Io Unit := writeVector platform val
def writeInt64Vector (val : List Int64) : Io Unit := writeVector platform val
def writeUInt8Vector (val : List UInt8) : Io Unit := writeVector platform val
def writeUInt16Vector (val : List UInt16) : Io Unit := writeVector platform val
def writeUInt32Vector (val : List UInt32) : Io Unit := writeVector platform val
def writeUInt64Vector (val : List UInt64) : Io Unit := writeVector platform val
def writeFloatVector (val : List UInt32) : Io Unit := writeVector platform val
def writeDoubleVector (val : List UInt64) : Io Unit := writeVector platform val

/-- The packed vectors of one byte elements have no limit of their own. -/
def readVector (width : Nat) (limit : Option Nat) : Io (Nat × Nat) := do
  let size ← readUint32
  if limit.any (· < size.toNat) then fail
  else
    let ptr ← ioPopUnaligned (size.toNat*width)
    pure (ptr,size.toNat)

def readEach {β : Type} (limit width : Nat) (convert : Int32 → β) : Io (List β) := do
  let size ← readUint32
  if size.toNat > limit then fail
  else if ¬ platform.malloc (size.toNat*width) then fail
  else forEach (fun _ => do
    let value ← readWord Int32
    pure (convert value)) (List.range size.toNat)

def readBoolVector : Io (List Bool) := readEach platform (maxIoSize/4) 1 fun value => value != 0
def readInt8Vector : Io (Nat × Nat) := readVector 1 none
def readInt16Vector : Io (List Int16) := readEach platform (maxIoSize/2) 2 Int32.toInt16
def readInt32Vector : Io (Nat × Nat) := readVector 4 (some (maxIoSize/4))
def readInt64Vector : Io (Nat × Nat) := readVector 8 (some (maxIoSize/8))
def readUInt8Vector : Io (Nat × Nat) := readVector 1 none
def readUInt16Vector : Io (Nat × Nat) := readVector 2 (some (maxIoSize/2))
def readUInt32Vector : Io (Nat × Nat) := readVector 4 (some (maxIoSize/4))
def readUInt64Vector : Io (Nat × Nat) := readVector 8 (some (maxIoSize/8))
def readFloatVector : Io (Nat × Nat) := readVector 4 (some (maxIoSize/4))
def readDoubleVector : Io (Nat × Nat) := readVector 8 (some (maxIoSize/8))

/-! Objects. -/

structure SvcIdentity where
  handle : Int32
  token : UInt64
  cookie : UInt64
  deriving DecidableEq

def ipcInvalidHandle : Int32 := -1
/-- `0x7f | FLAT_BINDER_FLAG_ACCEPTS_FDS`. -/
def objectFlags : UInt32 := 0x17f

def ioPushBinderObj : Io Nat := do
  let io ← observe State.io
  if io.offsetsCur = 0 then fail
  else
    match ← attempt (ioPush flatBinderObjectSize) with
    | none => overflows
    | some ptr =>
      if io.offsetsLeft = 0 then overflows
      else
        store io.offsetsCur (UInt64.ofNat (ptr-io.bufferBase))
        update fun s =>
          { s with io := { s.io with offsetsCur := io.offsetsCur+sizeSize, offsetsLeft := io.offsetsLeft-1 } }
        pure ptr

def ipcIoPushObject (cookie : UInt64) : Io Unit := do
  let ptr ← ioPushBinderObj
  store (ptr+4) objectFlags
  store ptr (UInt32.ofNat binderTypeBinder)
  store (ptr+8) cookie
  store (ptr+16) cookie

def ipcIoPushRef (handle : UInt32) (cookie : UInt64) : Io Unit := do
  let ptr ← ioPushBinderObj
  store (ptr+4) objectFlags
  store ptr (UInt32.ofNat binderTypeHandle)
  store (ptr+8) handle
  store (ptr+16) cookie

def writeRemoteObject (svc : SvcIdentity) : Io Unit :=
  if svc.handle ≤ 0 then ipcIoPushObject svc.cookie else ipcIoPushRef svc.handle.toUInt32 svc.cookie

def writeFileDescriptor (fd : UInt32) : Io Unit := do
  let ptr ← ioPushBinderObj
  store (ptr+4) objectFlags
  store ptr (UInt32.ofNat binderTypeFd)
  store (ptr+8) (0 : UInt64)
  store (ptr+16) (1 : UInt64)
  store (ptr+8) fd

def ipcIoPopRef : Io Nat := do
  let io ← observe State.io
  if io.offsetsCur = 0 then fail
  else if io.offsetsLeft = 0 then overflows
  else
    let obj ← ioPop flatBinderObjectSize
    update fun s =>
      { s with io := { s.io with offsetsCur := io.offsetsCur+sizeSize, offsetsLeft := io.offsetsLeft-1 } }
    pure obj

/-- `ReadRemoteObject`, over a way to pop the object; `svc` is what the caller's `SvcIdentity` holds before. -/
def readRemoteObjectBy (pop : Io Nat) (svc : SvcIdentity) : Io SvcIdentity := do
  let obj ← pop
  let type ← load UInt32 obj
  if type.toNat = binderTypeBinder then
    let token ← load UInt64 (obj+8)
    let cookie ← load UInt64 (obj+16)
    pure ⟨ipcInvalidHandle,token,cookie⟩
  else
    let handle ← load Int32 (obj+8)
    let cookie ← load UInt64 (obj+16)
    pure ⟨handle,svc.token,cookie⟩

def readFileDescriptorBy (pop : Io Nat) : Io Int32 := do
  let obj ← pop
  let type ← load UInt32 obj
  if type.toNat = binderTypeFd then load Int32 (obj+8) else fail

def readRemoteObject (svc : SvcIdentity) : Io SvcIdentity := readRemoteObjectBy ipcIoPopRef svc
def readFileDescriptor : Io Int32 := readFileDescriptorBy ipcIoPopRef

namespace LiteosA

/-- The pop of the other build, for objects of `size` bytes. -/
def ioPopSpecObj (size : Nat) : Io Nat := do
  let io ← observe State.io
  if io.offsetsCur = 0 then overflows
  else if io.offsetsLeft = 0 then overflows
  else
    let entry ← load UInt64 io.offsetsCur
    if entry.toNat ≠ io.bufferCur-io.bufferBase then overflows
    else
      match ← attempt (ioPop size) with
      | none => overflows
      | some obj =>
        update fun s =>
          { s with io := { s.io with offsetsCur := io.offsetsCur+sizeSize, offsetsLeft := io.offsetsLeft-1 } }
        pure obj

end LiteosA

/-! Appending one `IpcIo` to another. -/

def appendOffset (offsetAdjust entry : Nat) : Io Unit := do
  let io ← observe State.io
  let offset ← load UInt64 entry
  store io.offsetsCur (offset+UInt64.ofNat offsetAdjust)
  update fun s => { s with io := { s.io with offsetsCur := io.offsetsCur+sizeSize, offsetsLeft := io.offsetsLeft-1 } }

def ipcIoAppend (src : IpcIo) : Io Unit := do
  let dst ← observe State.io
  let srcUsedBufferSize := src.bufferCur-src.bufferBase
  let srcUsedOffsetsNum := (src.offsetsCur-src.offsetsBase)/sizeSize
  if ¬ ipcIoAvailable dst ∨ ¬ ipcIoAvailable src then fail
  else if srcUsedBufferSize = 0 ∧ srcUsedOffsetsNum ≠ 0 then fail
  else if dst.bufferLeft < srcUsedBufferSize ∨ dst.offsetsLeft < srcUsedOffsetsNum then fail
  else if srcUsedBufferSize > 0 then
    let ptr ← ioPush srcUsedBufferSize
    let offsetAdjust := ptr-dst.bufferBase
    memsetS platform ptr (ioAlign srcUsedBufferSize) (ioAlign srcUsedBufferSize)
    touch src.bufferBase srcUsedBufferSize
    let source ← observe fun s => s.memory.readBytes src.bufferBase srcUsedBufferSize
    memcpyS platform ptr (ioAlign srcUsedBufferSize) source
    let _ ← forEach (fun i => appendOffset offsetAdjust (src.offsetsBase+i*sizeSize)) (List.range srcUsedOffsetsNum)
    pure ()
  else pure ()

end Platform

/-! The calls. -/

/-- A typed write call with its argument. -/
inductive Item where
  | bool (value : Bool)
  | boolUnaligned (value : Bool)
  | int8 (value : Int8)
  | int8Unaligned (value : Int8)
  | uint8 (value : UInt8)
  | uint8Unaligned (value : UInt8)
  | int16 (value : Int16)
  | int16Unaligned (value : Int16)
  | uint16 (value : UInt16)
  | uint16Unaligned (value : UInt16)
  | int32 (value : Int32)
  | uint32 (value : UInt32)
  | int64 (value : Int64)
  | uint64 (value : UInt64)
  | float (value : UInt32)
  | double (value : UInt64)
  | pointer (value : UInt64)
  | string (value : List UInt8)
  | string16 (value : List UInt16)
  | interfaceToken (name : List UInt16)
  | buffer (data : List UInt8)
  | rawData (data : List UInt8)
  | boolVector (val : List Bool)
  | int8Vector (val : List Int8)
  | int16Vector (val : List Int16)
  | int32Vector (val : List Int32)
  | int64Vector (val : List Int64)
  | uint8Vector (val : List UInt8)
  | uint16Vector (val : List UInt16)
  | uint32Vector (val : List UInt32)
  | uint64Vector (val : List UInt64)
  | floatVector (val : List UInt32)
  | doubleVector (val : List UInt64)
  deriving DecidableEq

def Item.write (platform : Platform) : Item → Io Unit
  | .bool value => writeBool value
  | .boolUnaligned value => writeBoolUnaligned value
  | .int8 value => writeInt8 value
  | .int8Unaligned value => writeInt8Unaligned value
  | .uint8 value => writeUint8 value
  | .uint8Unaligned value => writeUint8Unaligned value
  | .int16 value => writeInt16 value
  | .int16Unaligned value => writeInt16Unaligned value
  | .uint16 value => writeUint16 value
  | .uint16Unaligned value => writeUint16Unaligned value
  | .int32 value => writeInt32 value
  | .uint32 value => writeUint32 value
  | .int64 value => writeInt64 value
  | .uint64 value => writeUint64 value
  | .float value => writeFloat value
  | .double value => writeDouble value
  | .pointer value => writePointer value
  | .string value => writeString platform value
  | .string16 value => writeString16 platform value
  | .interfaceToken name => writeInterfaceToken platform name
  | .buffer data => writeBuffer platform data
  | .rawData data => writeRawData platform data
  | .boolVector val => writeBoolVector val
  | .int8Vector val => writeInt8Vector platform val
  | .int16Vector val => writeInt16Vector val
  | .int32Vector val => writeInt32Vector platform val
  | .int64Vector val => writeInt64Vector platform val
  | .uint8Vector val => writeUInt8Vector platform val
  | .uint16Vector val => writeUInt16Vector platform val
  | .uint32Vector val => writeUInt32Vector platform val
  | .uint64Vector val => writeUInt64Vector platform val
  | .floatVector val => writeFloatVector platform val
  | .doubleVector val => writeDoubleVector platform val

/-- A typed read call; two of them take the size to read. -/
inductive Kind where
  | bool
  | boolUnaligned
  | int8
  | int8Unaligned
  | uint8
  | uint8Unaligned
  | int16
  | int16Unaligned
  | uint16
  | uint16Unaligned
  | int32
  | uint32
  | int64
  | uint64
  | float
  | double
  | pointer
  | string
  | string16
  | interfaceToken
  | buffer (size : UInt64)
  | rawData (size : UInt64)
  | boolVector
  | int8Vector
  | int16Vector
  | int32Vector
  | int64Vector
  | uint8Vector
  | uint16Vector
  | uint32Vector
  | uint64Vector
  | floatVector
  | doubleVector
  deriving DecidableEq

/-- The elements a caller finds behind a pointer that was returned with its length. -/
def elements (α : Type) [Word α] (read : Io (Nat × Nat)) : Io (List α) := do
  let block ← read
  observe fun s => s.memory.loads α block.1 block.2

/-- The read call, with what it yields as the write call of the same value. -/
def Kind.read (platform : Platform) : Kind → Io Item
  | .bool => .bool <$> readBool
  | .boolUnaligned => .boolUnaligned <$> readBoolUnaligned
  | .int8 => .int8 <$> readInt8
  | .int8Unaligned => .int8Unaligned <$> readInt8Unaligned
  | .uint8 => .uint8 <$> readUint8
  | .uint8Unaligned => .uint8Unaligned <$> readUInt8Unaligned
  | .int16 => .int16 <$> readInt16
  | .int16Unaligned => .int16Unaligned <$> readInt16Unaligned
  | .uint16 => .uint16 <$> readUint16
  | .uint16Unaligned => .uint16Unaligned <$> readUInt16Unaligned
  | .int32 => .int32 <$> readInt32
  | .uint32 => .uint32 <$> readUint32
  | .int64 => .int64 <$> readInt64
  | .uint64 => .uint64 <$> readUint64
  | .float => .float <$> readFloat
  | .double => .double <$> readDouble
  | .pointer => .pointer <$> readPointer
  | .string => .string <$> elements UInt8 readString
  | .string16 => .string16 <$> elements UInt16 readString16
  | .interfaceToken => .interfaceToken <$> elements UInt16 readInterfaceToken
  | .buffer size => .buffer <$> elements UInt8 (readBuffer size)
  | .rawData size => .rawData <$> elements UInt8 (readRawData size)
  | .boolVector => .boolVector <$> readBoolVector platform
  | .int8Vector => .int8Vector <$> elements Int8 readInt8Vector
  | .int16Vector => .int16Vector <$> readInt16Vector platform
  | .int32Vector => .int32Vector <$> elements Int32 readInt32Vector
  | .int64Vector => .int64Vector <$> elements Int64 readInt64Vector
  | .uint8Vector => .uint8Vector <$> elements UInt8 readUInt8Vector
  | .uint16Vector => .uint16Vector <$> elements UInt16 readUInt16Vector
  | .uint32Vector => .uint32Vector <$> elements UInt32 readUInt32Vector
  | .uint64Vector => .uint64Vector <$> elements UInt64 readUInt64Vector
  | .floatVector => .floatVector <$> elements UInt32 readFloatVector
  | .doubleVector => .doubleVector <$> elements UInt64 readDoubleVector

/-- A call on an `IpcIo`; `nullArgument` is any of them with a null pointer, which returns at once.
`ipcIoAppend` names the other `IpcIo` by its position. -/
inductive Call where
  | write (item : Item)
  | read (kind : Kind)
  | writeRemoteObject (svc : SvcIdentity)
  | writeFileDescriptor (fd : UInt32)
  | readRemoteObject (svc : SvcIdentity)
  | readFileDescriptor
  | ioPush (size : UInt64)
  | ioPop (size : UInt64)
  | ipcIoAppend (src : Nat)
  | nullArgument

def discard {α : Type} (program : Io α) : Io Unit := do
  let _ ← program
  pure ()

def Call.run (platform : Platform) (ios : Nat → IpcIo) : Call → Io Unit
  | .write item => item.write platform
  | .read kind => discard (kind.read platform)
  | .writeRemoteObject svc => Serializer.writeRemoteObject svc
  | .writeFileDescriptor fd => Serializer.writeFileDescriptor fd
  | .readRemoteObject svc => discard (Serializer.readRemoteObject svc)
  | .readFileDescriptor => discard Serializer.readFileDescriptor
  | .ioPush size => discard (Serializer.ioPush size.toNat)
  | .ioPop size => discard (Serializer.ioPop size.toNat)
  | .ipcIoAppend src => Serializer.ipcIoAppend platform (ios src)
  | .nullArgument => fail

/-- Several `IpcIo` over one memory. -/
structure System where
  memory : Memory
  ios : Nat → IpcIo

/-- A call on the `IpcIo` at a position: whether it succeeds, the state it leaves, and what it touched. -/
def System.call (platform : Platform) (system : System) (position : Nat) (call : Call) :
    Bool × System × List (Nat × Nat) :=
  let (outcome,s) := call.run platform system.ios ⟨system.memory,system.ios position,[]⟩
  (outcome.isSome,⟨s.memory,Function.update system.ios position s.io⟩,s.accesses)

def System.step (platform : Platform) (system : System) (event : Nat × Call) : System :=
  (system.call platform event.1 event.2).2.1

end CommunicationIpc.Kernel.Serializer
