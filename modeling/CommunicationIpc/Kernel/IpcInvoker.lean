import CommunicationIpc.Kernel.LiteInvoker

/-! The C invoker over the binder driver of Linux: a request to a stub of the same process and one
to a stub of another process. What a stub does is a `Handler`; it stands for `OnRemoteRequestInner`
with everything behind it. The caller's identity and `MessageOption.args` are left out, and so is the
driver, which is only known by what it delivers. -/
namespace CommunicationIpc.Kernel.IpcInvoker
open CommunicationIpc.Library CommunicationIpc.Kernel.Serializer
open CommunicationIpc.Kernel.Framing.Lite (sizeSize)
open CommunicationIpc.Kernel.LiteInvoker (usedBuffer usedOffsets errNone)

def tfOpSync : UInt32 := 0
def tfOpAsync : UInt32 := 1
def tfOpStatusCode : UInt32 := 8
def errInvalidParam : Int32 := -2
def errDeadObject : Int32 := -32
def ipcInvokerFailedReply : Int32 := -34
def ipcInvokerUnknownCode : Int32 := -35
def ipcInvokerIoctlFailed : Int32 := -36

/-! Stubs. -/

/-- No block is larger than half the address space; `IoPop` would round the largest sizes to 0. -/
def Sized : Kind → Prop
  | .buffer size => size.toNat < 2^63
  | _ => True

/-- What a read call yields. -/
inductive Value where
  | item (item : Item)
  | svc (svc : SvcIdentity)
  | fd (fd : Int32)
  deriving DecidableEq

inductive ReadCall where
  | plain (kind : Kind) (sized : Sized kind)
  | remoteObject (svc : SvcIdentity)
  | fileDescriptor

inductive WriteCall where
  | plain (item : Item)
  | remoteObject (svc : SvcIdentity)
  | fileDescriptor (fd : UInt32)

def ReadCall.run (platform : Platform) : ReadCall → Io Value
  | .plain kind _ => .item <$> kind.read platform
  | .remoteObject svc => .svc <$> readRemoteObject svc
  | .fileDescriptor => .fd <$> readFileDescriptor

def WriteCall.run (platform : Platform) : WriteCall → Io Unit
  | .plain item => item.write platform
  | .remoteObject svc => writeRemoteObject svc
  | .fileDescriptor fd => writeFileDescriptor fd

/-- What a stub's function does: it reads from the data and writes to the reply, goes on by what these
calls give it, and ends with a result. -/
inductive Handler where
  | ends (result : Int32)
  | reads (call : ReadCall) (next : Option Value → Handler)
  | writes (call : WriteCall) (next : Bool → Handler)

/-- The memory of the process, and the two `IpcIo` a function is called with; a null pointer is `none`. -/
structure Arguments where
  memory : Memory
  data : Option IpcIo
  reply : Option IpcIo

namespace Arguments

def read (platform : Platform) (arguments : Arguments) (call : ReadCall) : Option Value × Arguments :=
  match arguments.data with
  | none => (none,arguments)
  | some io =>
    let (outcome,s) := call.run platform ⟨arguments.memory,io,[]⟩
    (outcome,{ arguments with memory := s.memory, data := some s.io })

def write (platform : Platform) (arguments : Arguments) (call : WriteCall) : Bool × Arguments :=
  match arguments.reply with
  | none => (false,arguments)
  | some io =>
    let (outcome,s) := call.run platform ⟨arguments.memory,io,[]⟩
    (outcome.isSome,{ arguments with memory := s.memory, reply := some s.io })

end Arguments

def Handler.run (platform : Platform) : Handler → Arguments → Int32 × Arguments
  | .ends result,arguments => (result,arguments)
  | .reads call next,arguments => (next (arguments.read platform call).1).run platform (arguments.read platform call).2
  | .writes call next,arguments => (next (arguments.write platform call).1).run platform (arguments.write platform call).2

abbrev OnRemoteRequest := UInt32 → Handler

/-! Between an `IpcIo` and the driver. -/

structure BinderTransactionData where
  handle : UInt32
  code : UInt32
  flags : UInt32
  dataSize : Nat
  buffer : Nat
  offsetsSize : Nat
  offsets : Nat
  deriving DecidableEq

def toTransData (handle code option : UInt32) (data : Option IpcIo) : BinderTransactionData where
  handle := handle
  code := code
  flags := option
  dataSize := (data.map usedBuffer).getD 0
  buffer := (data.map IpcIo.bufferBase).getD 0
  offsetsSize := ioAlign ((data.map fun io => io.offsetsCur-io.offsetsBase).getD 0)
  offsets := (data.map IpcIo.offsetsBase).getD 0

def toIpcData (tr : BinderTransactionData) : IpcIo :=
  ⟨tr.buffer,tr.offsets,tr.buffer,tr.offsets,tr.dataSize,tr.offsetsSize/sizeSize,true,false⟩

/-- An array `tempData` on the stack, which nobody has written yet, as an `IpcIo`. -/
def tempIo (tempData : Nat) : IpcIo := ipcIoInit ⟨0,0,0,0,0,0,false,false⟩ tempData maxIoSize maxObjNum

/-- `status` is where the caller has its result, which is never null. -/
def sendReply (reply : IpcIo) (status : Nat) : BinderTransactionData :=
  if reply.bufferCur > reply.bufferBase then toTransData 0 0 0 (some reply)
  else ⟨0,0,tfOpStatusCode,4,status,0,0⟩

/-- What the stub's process has after a transaction: its memory, and what it sends. -/
def handleTransaction (platform : Platform) (stub : OnRemoteRequest) (memory : Memory) (tr : BinderTransactionData)
    (tempData status : Nat) : Memory × Option BinderTransactionData :=
  let (error,handled) := (stub tr.code).run platform ⟨memory,some (toIpcData tr),some (tempIo tempData)⟩
  let memory := handled.memory.store status error
  if tr.flags &&& tfOpAsync ≠ 0 then (memory,none)
  else (memory,handled.reply.map (sendReply · status))

/-! The requester. -/

/-- The end of a request: its result, the memory of the process, and what its `reply` is then. -/
structure Answer where
  result : Int32
  memory : Memory
  reply : Option IpcIo

def rewind (io : IpcIo) : IpcIo :=
  { io with bufferLeft := usedBuffer io, offsetsLeft := usedOffsets io, bufferCur := io.bufferBase, offsetsCur := io.offsetsBase }

/-- `stub` is what `sid.cookie` points to. -/
def internalRequest (platform : Platform) (stub : Option OnRemoteRequest) (code : UInt32) (memory : Memory) (data reply : Option IpcIo)
    (flags : UInt32) (tempData : Nat) : Answer :=
  match stub with
  | none => ⟨errInvalidParam,memory,reply⟩
  | some stub =>
    let data := data.map fun io => if ipcIoAvailable io then rewind io else io
    let reply := reply.map fun io => if flags = tfOpSync then tempIo tempData else io
    let (error,handled) := (stub code).run platform ⟨memory,data,reply⟩
    ⟨error,handled.memory,handled.reply.map fun io => if flags = tfOpSync then rewind io else io⟩

/-- The commands the driver returns; `noop` is any of those that `BinderParse` goes over. -/
inductive Return where
  | noop
  | reply (tr : BinderTransactionData)
  | failedReply
  | deadReply
  | unknown
  deriving DecidableEq

def handleReply (reply : Option IpcIo) (buffer : Bool) (tr : BinderTransactionData) : Option IpcIo :=
  if reply.isNone ∨ ¬ buffer then reply else some (toIpcData tr)

def binderParse (buffer : Bool) (state : Int32 × Option IpcIo) : List Return → Int32 × Option IpcIo
  | [] => state
  | .noop :: returns => binderParse buffer state returns
  | .reply tr :: returns => binderParse buffer (0,handleReply state.2 buffer tr) returns
  | .failedReply :: returns => binderParse buffer (ipcInvokerFailedReply,state.2) returns
  | .deadReply :: returns => binderParse buffer (errDeadObject,state.2) returns
  | .unknown :: returns => binderParse buffer (ipcInvokerUnknownCode,state.2) returns

/-- The turns of the loop that waits for the reply, by what each `ioctl` returns; `none` where the driver
has not answered yet. -/
def waitForReply (buffer : Bool) (reply : Option IpcIo) : List (Option (List Return)) → Option (Int32 × Option IpcIo)
  | [] => none
  | none :: _ => some (ipcInvokerIoctlFailed,reply)
  | some returns :: later =>
    let (ret,reply) := binderParse buffer (1,reply) returns
    if ret ≤ 0 then some (ret,reply) else waitForReply buffer reply later

/-- `buffer` tells whether the caller gave a place for the pointer to the received data, `memory` is what
the process has when the reply is there. -/
def ipcSendRequest (platform : Platform) (target : SvcIdentity) (stub : Option OnRemoteRequest) (code : UInt32) (data reply : Option IpcIo)
    (flags : UInt32) (buffer : Bool) (memory : Memory) (tempData : Nat) (returns : List (Option (List Return))) : Option Answer :=
  if target.handle < 0 then some (internalRequest platform stub code memory data reply flags tempData)
  else if flags ≠ tfOpAsync then
    (waitForReply buffer reply returns).map fun ended => ⟨ended.1,memory,ended.2⟩
  else
    match returns with
    | [] => none
    | none :: _ => some ⟨ipcInvokerIoctlFailed,memory,reply⟩
    | some returns :: _ =>
      let (ret,reply) := binderParse false (1,reply) returns
      some ⟨if ret = 1 then errNone else ret,memory,reply⟩

end CommunicationIpc.Kernel.IpcInvoker
