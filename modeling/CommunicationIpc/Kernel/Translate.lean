import CommunicationIpc.Kernel.Package
import CommunicationIpc.Library.Text

/-! Translation of the objects in a package, on the sending and on the receiving side. What the
process knows of its stubs and proxies is a parameter: `sessionOf` gives the session for an object
to send, `handleOf` the handle of a received session, 0 where there is none. `accesses`, `flattened`
and `decoded` are not in the source: the byte ranges touched, and the session written or read for
each object with its slot. -/
namespace CommunicationIpc.Kernel.Translate
open CommunicationIpc.Library CommunicationIpc.Kernel.Package

/-! The object types: `B_PACK_CHARS` of two letters, a third one and `B_TYPE_LARGE`. -/

def binderTypeBinder : Nat := 0x73622a85
def binderTypeHandle : Nat := 0x73682a85
def binderTypeFd : Nat := 0x66642a85
def binderTypePtr : Nat := 0x70742a85
def binderTypeRemoteHandle : Nat := 0x72682a85
def binderTypeFdr : Nat := 0x66647285
def binderTypeInvalidHandle : Nat := 0x72686585
def binderTypeInvalidBinder : Nat := 0x72626585
def binderTypeInvalidType : Nat := 0x72746585

def ifProtBinder : Nat := 0
def ifProtDatabus : Nat := 1
def ifProtError : Nat := 2

def deviceidLength : Nat := 64
def supportTokenidServicenameLength : Nat := 64
def supportTokenidVersionNum : Nat := 2
def tokenidMagic : Nat := 0x544F4B49

/-- `sizeof(flat_binder_object)` and of `binder_fd_object`. -/
def flatBinderObjectSize : Nat := 24
/-- `sizeof(binder_object_header)`. -/
def objectHeaderSize : Nat := 4

def wrap32 (value : Nat) : Nat := value % 2^32

structure Session where
  serviceName : List UInt8
  deviceId : List UInt8
  stubIndex : UInt64
  tokenId : UInt32
  deriving DecidableEq

/-- The fields of a `FlatDBinderSession` at `slot`: `stubIndex` at 0, the lengths at 8 and 10,
`deviceId` at 12, `serviceName` at 77, `version` at 142, `magic` at 144, `tokenId` at 148. -/
def flattenSession (memory : Memory) (slot : Nat) (connectSession : Session) (binderVersion : Nat) : Memory × Nat :=
  let memory := memory.writeBytes slot (List.replicate flatSessionLen 0)
  let memory := memory.write slot 8 connectSession.stubIndex.toNat
  let memory := memory.write (slot+142) 2 binderVersion
  let memory := memory.write (slot+144) 4 tokenidMagic
  let memory := memory.write (slot+148) 4 connectSession.tokenId.toNat
  let deviceIdLength := connectSession.deviceId.length % 2^16
  let memory := memory.write (slot+8) 2 deviceIdLength
  if deviceIdLength = 0 ∨ deviceIdLength > deviceidLength then (memory,0)
  else
    let memory := memory.writeBytes (slot+12) (connectSession.deviceId.take deviceIdLength)
    let memory := memory.write (slot+12+deviceIdLength) 1 0
    let serviceNameLength := connectSession.serviceName.length % 2^16
    let memory := memory.write (slot+10) 2 serviceNameLength
    if serviceNameLength = 0 ∨ serviceNameLength > supportTokenidServicenameLength then (memory,0)
    else
      let memory := memory.writeBytes (slot+77) (connectSession.serviceName.take serviceNameLength)
      (memory.write (slot+77+serviceNameLength) 1 0,flatSessionLen)

def unFlattenSession (memory : Memory) (slot binderVersion : Nat) : Memory × Option Session :=
  if memory.read slot 8 = 0 then (memory,none)
  else
    let tokenId := if supportTokenidVersionNum ≤ binderVersion ∧ supportTokenidVersionNum ≤ memory.read (slot+142) 2 ∧
        memory.read (slot+144) 4 = tokenidMagic then memory.read (slot+148) 4 else 0
    -- makes sure both names end with a null terminator
    let memory := memory.write (slot+12+deviceidLength) 1 0
    let memory := memory.write (slot+77+supportTokenidServicenameLength) 1 0
    (memory,some ⟨cString (memory.readBytes (slot+77) (supportTokenidServicenameLength+1)),
      cString (memory.readBytes (slot+12) (deviceidLength+1)),UInt64.ofNat (memory.read slot 8),UInt32.ofNat tokenId⟩)

def getRemoteObjectSize (objType : Nat) : Nat :=
  if objType = binderTypeBinder ∨ objType = binderTypeHandle ∨ objType = binderTypeFd ∨ objType = binderTypeRemoteHandle ∨
      objType = binderTypeFdr then flatBinderObjectSize
  else if objType = binderTypePtr then 40
  else 0

structure Layout where
  dataBuffer : Nat
  bufferSize : Nat
  offsets : Nat
  offsetsSize : Nat

namespace Layout

def entryAddress (layout : Layout) (i : Nat) : Nat := layout.dataBuffer+layout.offsets+i*binderSize

def flatOffset (layout : Layout) : Nat := layout.dataBuffer+wrap32 (layout.bufferSize+layout.offsetsSize)

def objCount (layout : Layout) : Nat := layout.offsetsSize/binderSize

end Layout

def layoutOf (tr : TransactionData) : Layout := ⟨headerSize,tr.bufferSize,tr.offsets,tr.offsetsSize⟩

/-- The tests of `IsValidRemoteObjectOffset` that come before the object is looked at. -/
def isOffsetInOrder (bufferSize offset offsetIdx preOffset preObjectSize : Nat) : Bool :=
  ¬ (bufferSize ≤ offset ∨ bufferSize ≤ wrap64 (offset+objectHeaderSize) ∨
    (0 < offsetIdx ∧ (offset ≤ preOffset ∨ offset < wrap64 (preOffset+preObjectSize))))

def isValidRemoteObjectOffset (memory : Memory) (layout : Layout) (offset offsetIdx preOffset preObjectSize : Nat) : Option Nat :=
  if ¬ isOffsetInOrder layout.bufferSize offset offsetIdx preOffset preObjectSize then none
  else
    let sizeOfObject := getRemoteObjectSize (memory.read (layout.dataBuffer+offset) 4)
    if sizeOfObject = 0 ∨ layout.bufferSize < wrap64 (offset+sizeOfObject) then none else some sizeOfObject

structure Sender where
  memory : Memory
  totalSize : Nat
  flattened : List (Nat × Nat × Session)

/-- `TranslateBinderType` and `TranslateHandleType` once the session is there. -/
def Sender.flatten (sender : Sender) (layout : Layout) (i : Nat) (memory : Memory) (sessionOfPeer : Session) : Bool × Sender :=
  let slot := layout.flatOffset+sender.totalSize
  let (memory,flatSize) := flattenSession memory slot sessionOfPeer supportTokenidVersionNum
  if flatSize = 0 then (false,{ sender with memory := memory })
  else (true,⟨memory,wrap32 (sender.totalSize+flatSize),sender.flattened ++ [(i,slot,sessionOfPeer)]⟩)

def Sender.sendObject (sessionOf : Nat → Nat → Nat → Nat → Option Session) (layout : Layout) (sender : Sender)
    (i object : Nat) : Bool × Sender :=
  let memory := sender.memory
  let type := memory.read object 4
  let found := sessionOf i type (memory.read (object+8) 4) (memory.read (object+16) 8)
  if type = binderTypeBinder then
    match found with
    | none => (false,sender)
    | some sessionOfPeer =>
      let memory := memory.write object 4 binderTypeRemoteHandle
      let memory := memory.write (object+16) 8 ifProtDatabus
      let memory := memory.write (object+8) 8 0
      sender.flatten layout i memory sessionOfPeer
  else if type = binderTypeHandle then
    let cookie := memory.read (object+16) 8
    if cookie ≠ ifProtDatabus ∧ cookie ≠ ifProtBinder then (false,sender)
    else
      match found with
      | none => (false,sender)
      | some sessionOfPeer => sender.flatten layout i (memory.write object 4 binderTypeRemoteHandle) sessionOfPeer
  else if type = binderTypeFd then
    let memory := memory.write object 4 binderTypeFdr
    (true,{ sender with memory := memory.write (object+8) 4 (2^32-1) })
  else (false,{ sender with memory := memory.write object 4 binderTypeInvalidType })

def Sender.loop (sessionOf : Nat → Nat → Nat → Nat → Option Session) (layout : Layout) :
    Nat → Nat → Nat → Nat → Sender → Bool × Sender
  | 0,_,_,_,sender => (true,sender)
  | count+1,i,preOffset,preObjectSize,sender =>
    let offset := sender.memory.read (layout.entryAddress i) binderSize
    match isValidRemoteObjectOffset sender.memory layout offset i preOffset preObjectSize with
    | none => (false,sender)
    | some sizeOfObject =>
      match sender.sendObject sessionOf layout i (layout.dataBuffer+offset) with
      | (false,stopped) => (false,stopped)
      | (true,next) => Sender.loop sessionOf layout count (i+1) offset sizeOfObject next

def iRemoteObjectTranslateWhenSend (sessionOf : Nat → Nat → Nat → Nat → Option Session) (memory : Memory)
    (layout : Layout) : Bool × Sender :=
  if layout.bufferSize = 0 then (false,⟨memory,0,[]⟩)
  else Sender.loop sessionOf layout layout.objCount 0 0 0 ⟨memory,0,[]⟩

structure Receiver where
  memory : Memory
  accesses : List (Nat × Nat)
  decoded : List (Nat × Nat × Option Session)

def Receiver.touch (receiver : Receiver) (address width : Nat) : Receiver :=
  { receiver with accesses := receiver.accesses ++ [(address,width)] }

def Receiver.translateRemoteHandleType (handleOf : Session → Nat) (receiver : Receiver) (i object slot : Nat) : Receiver :=
  let cookie := receiver.memory.read (object+16) 8
  if cookie = ifProtDatabus ∨ cookie = ifProtBinder then
    let (memory,sessionOfPeer) := unFlattenSession receiver.memory slot supportTokenidVersionNum
    let handle := (sessionOfPeer.map handleOf).getD 0
    let unpacked : Receiver :=
      ⟨memory,receiver.accesses ++ [(slot,flatSessionLen)],receiver.decoded ++ [(i,slot,sessionOfPeer)]⟩
    if handle = 0 then unpacked
    else { unpacked with memory := (memory.write object 4 binderTypeHandle).write (object+8) 4 handle }
  else { receiver with decoded := receiver.decoded ++ [(i,slot,none)] }

/-- `ClearBinderType` and `ClearHandleType`. -/
def clearType (memory : Memory) (object type : Nat) : Memory :=
  ((memory.write object 4 type).write (object+16) 8 ifProtError).write (object+8) 8 0

def Receiver.receiveObject (handleOf : Session → Nat) (layout : Layout) (receiver : Receiver) (i object : Nat) :
    Bool × Receiver :=
  let type := receiver.memory.read object 4
  let opened := receiver.touch object flatBinderObjectSize
  if type = binderTypeBinder then
    (false,{ opened with memory := clearType receiver.memory object binderTypeInvalidBinder })
  else if type = binderTypeHandle then
    (false,{ opened with memory := clearType receiver.memory object binderTypeInvalidHandle })
  else if type = binderTypeRemoteHandle then
    (true,opened.translateRemoteHandleType handleOf i object (layout.flatOffset+i*flatSessionLen))
  else if type = binderTypeFd then
    (false,{ opened with
      memory := (receiver.memory.write object 4 binderTypeFdr).write (object+8) 4 (2^32-1) })
  else if type = binderTypeFdr then
    -- TranslateRawData does not look at the package
    (true,{ opened with memory := receiver.memory.write (object+8) 4 (2^32-1) })
  else (false,{ receiver.touch object objectHeaderSize with memory := receiver.memory.write object 4 binderTypeInvalidType })

def Receiver.loop (handleOf : Session → Nat) (layout : Layout) : Nat → Nat → Nat → Nat → Receiver → Bool × Receiver
  | 0,_,_,_,receiver => (true,receiver)
  | count+1,i,preOffset,preObjectSize,receiver =>
    let offset := receiver.memory.read (layout.entryAddress i) binderSize
    let fetched := receiver.touch (layout.entryAddress i) binderSize
    let object := layout.dataBuffer+offset
    let looked := if isOffsetInOrder layout.bufferSize offset i preOffset preObjectSize then
      fetched.touch object objectHeaderSize else fetched
    match isValidRemoteObjectOffset receiver.memory layout offset i preOffset preObjectSize with
    | none => (false,looked)
    | some sizeOfObject =>
      match looked.receiveObject handleOf layout i object with
      | (false,stopped) => (false,stopped)
      | (true,next) => Receiver.loop handleOf layout count (i+1) offset sizeOfObject next

def iRemoteObjectTranslateWhenRcv (handleOf : Session → Nat) (memory : Memory) (layout : Layout) : Bool × Receiver :=
  Receiver.loop handleOf layout layout.objCount 0 0 0 ⟨memory,[],[]⟩

/-- The translation `ProcessTransaction` starts with. -/
def processTransaction (handleOf : Session → Nat) (memory : Memory) : Bool × Receiver :=
  let tr := TransactionData.decode memory
  if tr.bufferSize = 0 then (false,⟨memory,[],[]⟩)
  else iRemoteObjectTranslateWhenRcv handleOf memory (layoutOf tr)

/-- The translation of `HandleReply`, in the copy of the package's bytes behind its header. -/
def handleReply (handleOf : Session → Nat) (memory : Memory) : Bool × Receiver :=
  let tr := TransactionData.decode memory
  if hasFlag tr.flags tfStatusCode then (true,⟨memory,[],[]⟩)
  else iRemoteObjectTranslateWhenRcv handleOf memory (layoutOf tr)

end CommunicationIpc.Kernel.Translate
