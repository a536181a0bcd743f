import CommunicationIpc.Kernel.Serializer

/-! The C invoker of small systems: from an `IpcIo` to the package of a request or a reply and back,
and what the receiver and the waiting requester make of it. A process is what it has registered;
its memory holds what the `IpcIo` points to. -/
namespace CommunicationIpc.Kernel.LiteInvoker
open CommunicationIpc.Library CommunicationIpc.Kernel.Serializer
open CommunicationIpc.Kernel.Package (TransactionData dbinderMagicword tfAsync tfStatusCode hasFlag wrap64)
open CommunicationIpc.Kernel.Framing.Lite (headerSize sizeSize bcTransaction bcReply hasCompletePackage)
open CommunicationIpc.Kernel.Translate (wrap32)

def versionNum : Nat := 1
def rpcIpcLength : Nat := 128
def rpcMaxSendWaitTime : Nat := 3000
def errNone : Int32 := 0
def errFailed : Int32 := -1

structure HandleSession where
  handle : UInt32
  sessionId : UInt32
  deriving DecidableEq

structure ThreadContext where
  sessionId : UInt32
  seqNumber : UInt64
  deriving DecidableEq

/-- The lists are searched from the front; `threadContext` is that of the thread at work. -/
structure Process where
  proxySessions : List HandleSession
  stubSessions : List HandleSession
  handleToIndex : List (UInt32 × UInt64)
  seqNumber : UInt64
  threadContext : Option ThreadContext

def queryProxySession (process : Process) (handle : UInt32) : Option HandleSession :=
  process.proxySessions.find? fun node => node.handle = handle

def queryStubSession (process : Process) (handle : UInt32) : Option HandleSession :=
  process.stubSessions.find? fun node => node.handle = handle

def queryHandleToIndex (process : Process) (handle : UInt32) : Option UInt64 :=
  (process.handleToIndex.find? fun node => node.1 = handle).map Prod.snd

def processGetSeqNumber (process : Process) : UInt64 :=
  if process.seqNumber+1 = 0 then process.seqNumber+2 else process.seqNumber+1

def getSessionObject (process : Process) (handle sessionId : UInt32) : Option HandleSession :=
  if handle ≠ 0 then queryProxySession process handle else queryStubSession process sessionId

def getUniqueSeqNumber (process : Process) (cmd : Nat) : UInt64 :=
  if cmd = bcTransaction then processGetSeqNumber process
  else if cmd = bcReply then (process.threadContext.map ThreadContext.seqNumber).getD 0
  else 0

/-- `bufferCur - bufferBase`, in bytes. -/
def usedBuffer (io : IpcIo) : Nat := io.bufferCur-io.bufferBase
/-- `offsetsCur - offsetsBase`, in entries. -/
def usedOffsets (io : IpcIo) : Nat := (io.offsetsCur-io.offsetsBase)/sizeSize

def toTransData (data : Option IpcIo) (buf : TransactionData) : TransactionData :=
  let bufferSize := (data.map usedBuffer).getD 0
  { buf with bufferSize := bufferSize, offsets := bufferSize, offsetsSize := wrap64 ((data.map usedOffsets).getD 0*sizeSize) }

/-- `buffer` is the pointer of the same name in `tr`. -/
def toIpcData (tr : TransactionData) (buffer : Nat) : IpcIo :=
  ⟨buffer,buffer+tr.bufferSize,buffer,buffer+tr.bufferSize,tr.bufferSize,tr.offsetsSize/sizeSize,true,false⟩

section Sending
variable (platform : Platform) (process : Process) (memory : Memory)

/-- The header and the contents of its `buffer`, which the two copies fill. -/
def moveIpcToTransData (data : Option IpcIo) (transData : TransactionData) (status : Int32) :
    Option (TransactionData × List UInt8) :=
  match data with
  | some io =>
    let transData := toTransData (some io) transData
    if platform.memcpyS transData.bufferSize transData.bufferSize ≠ .done then none
    else
      let source := memory.readBytes io.bufferBase transData.bufferSize
      let offsetsSize := wrap32 (wrap64 (transData.sizeOfSelf+2^65-headerSize-transData.bufferSize))
      if offsetsSize = 0 then some (transData,source)
      else if platform.memcpyS offsetsSize offsetsSize ≠ .done then none
      else some (transData,source ++ memory.readBytes io.offsetsBase offsetsSize)
  | none =>
    some ({ transData with flags := transData.flags ||| tfStatusCode, bufferSize := sizeSize,
                           offsetsSize := (status.toInt % 2^64).toNat, offsets := sizeSize },[])

def processNormalData (data : IpcIo) (handle : UInt32) (status : Int32) (transData : TransactionData) :
    Option (TransactionData × List UInt8) :=
  let dataSize := wrap32 (wrap32 (usedOffsets data)+wrap32 (usedBuffer data))
  if ¬ platform.malloc dataSize then none
  else
    let transData := { transData with sizeOfSelf := wrap32 (headerSize+dataSize) }
    if handle = 0 then moveIpcToTransData platform memory (some data) { transData with cookie := 0 } status
    else
      match queryHandleToIndex process handle with
      | none => none
      | some index => moveIpcToTransData platform memory (some data) { transData with cookie := index.toNat } status

/-- The header as it lies in memory, with the address of the buffer it points to. -/
def headerMemory (tr : TransactionData) (buffer : Nat) : Memory :=
  let memory : Memory := fun _ => 0
  let memory := memory.write 0 4 tr.sizeOfSelf
  let memory := memory.write 4 4 tr.magic
  let memory := memory.write 8 4 tr.version
  let memory := memory.write 12 4 tr.cmd
  let memory := memory.write 16 4 tr.code
  let memory := memory.write 20 4 tr.flags
  let memory := memory.write 24 8 tr.cookie
  let memory := memory.write 32 8 tr.seqNumber
  let memory := memory.write 40 8 tr.bufferSize
  let memory := memory.write 48 8 tr.offsetsSize
  let memory := memory.write 56 8 tr.offsets
  memory.write 64 8 buffer

def moveTransData2Buffer (transData : TransactionData) (buffer : List UInt8) (address : Nat) : Option (List UInt8) :=
  let bufferSize := wrap64 (transData.sizeOfSelf+2^64-headerSize)
  if ¬ platform.malloc transData.sizeOfSelf then none
  else if platform.memcpyS headerSize headerSize ≠ .done then none
  else if platform.memcpyS bufferSize bufferSize ≠ .done then none
  else some ((headerMemory transData address).readBytes 0 headerSize ++ buffer.take bufferSize)

/-- The session and what its `buffer` then holds. Where `malloc` fails in `ProcessNormalData` the code
goes on with a `sizeOfSelf` of 0, and the second copy of `MoveTransData2Buffer` is refused. -/
def writeTransaction (cmd : Nat) (flags : UInt32) (handle sessionId code : UInt32) (data : IpcIo) (status : Int32) (address : Nat) :
    Option (HandleSession × UInt64 × List UInt8) :=
  match getSessionObject process handle sessionId with
  | none => none
  | some sessionObject =>
    let seqNum := getUniqueSeqNumber process cmd
    if seqNum = 0 then none
    else
      let transData : TransactionData :=
        ⟨0,dbinderMagicword,versionNum,cmd,code.toNat,flags.toNat,0,seqNum.toNat,0,0,0⟩
      match processNormalData platform process memory data handle status transData with
      | none => none
      | some (transData,buffer) =>
        match moveTransData2Buffer platform transData buffer address with
        | none => none
        | some package => some (sessionObject,seqNum,package)

end Sending

/-! The receiver. -/

/-- What a stub's function leaves: its result, and the `IpcIo` of the reply with the memory behind it. -/
structure Handled where
  result : Int32
  reply : IpcIo
  memory : Memory

/-- A stub's `func`, for the code, the data, the reply and the flags it is called with. -/
abbrev OnRemoteRequest := UInt32 → IpcIo → IpcIo → UInt32 → Memory → Handled

def queryStubByIndex (stubs : List (UInt64 × OnRemoteRequest)) (stubIndex : UInt64) : Option OnRemoteRequest :=
  (stubs.find? fun node => node.1 = stubIndex).map Prod.snd

def getCallerSessionId (process : Process) : UInt32 := (process.threadContext.map ThreadContext.sessionId).getD (-1)

/-- The package and the session it is sent over, if any. -/
def sendReply (platform : Platform) (process : Process) (memory : Memory) (reply : IpcIo) (flags : UInt32) (result : Int32)
    (address : Nat) : Option (HandleSession × List UInt8) :=
  (writeTransaction platform process memory bcReply flags 0 (getCallerSessionId process) 0 reply result address).map
    fun (sessionObject,_,package) => (sessionObject,package)

/-- `replyAlloc` is the array on the stack the reply is set up over, `buffer` the `tr->buffer`.
The caller's identity in the thread's context is saved and restored around this. -/
def processTransaction (platform : Platform) (process : Process) (stubs : List (UInt64 × OnRemoteRequest)) (memory : Memory)
    (tr : TransactionData) (buffer replyAlloc address : Nat) (sessionId : UInt32) : Option (HandleSession × List UInt8) :=
  if tr.cookie = 0 then none
  else
    let reply := ipcIoInit ⟨0,0,0,0,0,0,false,false⟩ replyAlloc rpcIpcLength 0
    let data := toIpcData tr buffer
    match process.threadContext with
    | none => none
    | some _ =>
      match queryStubByIndex stubs (.ofNat tr.cookie) with
      | none => none
      | some func =>
        let handled := func (.ofNat tr.code) data reply (.ofNat tr.flags) memory
        if hasFlag tr.flags tfAsync then none
        else
          let context : ThreadContext := ⟨sessionId,.ofNat tr.seqNumber⟩
          sendReply platform { process with threadContext := some context } handled.memory handled.reply 0 handled.result address

/-- `OnTransaction` on a package with a request. -/
def onTransaction (platform : Platform) (process : Process) (stubs : List (UInt64 × OnRemoteRequest)) (memory : Memory)
    (package replyAlloc address : Nat) (sessionId : UInt32) : Option (HandleSession × List UInt8) :=
  let tr := TransactionData.decode (memory.shift package)
  if tr.cmd = bcTransaction then
    processTransaction platform process stubs memory tr (package+headerSize) replyAlloc address sessionId
  else none

/-! The requester. -/

/-- What `ProcessReply` stores for the thread that waits. -/
structure MessageInfo where
  flags : Nat
  bufferSize : Nat
  offsetsSize : Nat
  offsets : Nat
  deriving DecidableEq

/-- Of a reply for a thread that waits for it: what is stored before the thread is woken. Where the
copy fails only the thread is woken, with what `MakeThreadMessageInfo` left in the fields. -/
def processReply (platform : Platform) (tr : TransactionData) : Option MessageInfo :=
  let bufferSize := wrap64 (tr.sizeOfSelf+2^64-headerSize)
  if ¬ platform.malloc bufferSize then none
  else if platform.memcpyS bufferSize bufferSize ≠ .done then none
  else some ⟨tr.flags,tr.bufferSize,tr.offsetsSize,tr.offsets⟩

/-- `buffer` tells whether the caller gave a place for the pointer to the received data. -/
def handleReply (messageInfo : MessageInfo) (buffer : Bool) : Int32 :=
  if hasFlag messageInfo.flags tfStatusCode then (UInt32.ofNat messageInfo.offsetsSize).toInt32
  else if ¬ buffer then errFailed
  else errNone

/-- How a call ends: with a result, or because no reply came, which it reports as `ERR_FAILED`. -/
inductive Outcome where
  | returned (result : Int32)
  | timedOut
  deriving DecidableEq

/-- `reply` and `buffer` tell whether the caller gave them, `stored` is what came for the thread in time. -/
def waitForReply (reply : Bool) (userWaitTime : UInt32) (buffer : Bool) (stored : Option MessageInfo) : Outcome :=
  if ¬ reply ∨ userWaitTime = 0 then .returned errNone
  else
    match stored with
    | none => .timedOut
    | some messageInfo => .returned (handleReply messageInfo buffer)

structure MessageOption where
  flags : UInt32
  waitTime : UInt32

/-- The end of `RpcInvokerSendRequest`, after the request was sent. -/
def rpcInvokerSendRequest (option : MessageOption) (reply buffer : Bool) (stored : Option MessageInfo) : Outcome :=
  let userWaitTime := if option.waitTime.toNat > rpcMaxSendWaitTime then UInt32.ofNat rpcMaxSendWaitTime else option.waitTime
  if hasFlag option.flags.toNat tfAsync then waitForReply false userWaitTime buffer stored
  else waitForReply reply userWaitTime buffer stored

/-- `OnMessageAvailable` on the bytes of one package, up to `OnTransaction`: what is stored of a reply. -/
def receiveReply (platform : Platform) (package : List UInt8) : Option MessageInfo :=
  let memory := Memory.ofBytes package
  if headerSize < package.length ∧ hasCompletePackage memory 0 package.length > 0 then
    let tr := TransactionData.decode memory
    if tr.cmd = bcReply then processReply platform tr else none
  else none

end CommunicationIpc.Kernel.LiteInvoker
