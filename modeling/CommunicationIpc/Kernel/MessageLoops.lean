import CommunicationIpc.Kernel.LiteInvoker

/-! The loops of the LiteOS-A invoker that receive messages from the driver: `CallbackDispatchLoop`, which makes a thread for each
message, the threads it makes, and `IpcJoinThreadLoop`. A step of a thread is what it does up to the next call of the driver, of the
C library or of a callback. Messages are numbered as they are received, and a number stands for the message's buffer. -/
namespace CommunicationIpc.Kernel.MessageLoops
open CommunicationIpc.Kernel.Serializer CommunicationIpc.Kernel.LiteInvoker
open CommunicationIpc.Kernel.Translate (wrap32)

inductive MsgType
  | request | reply | failedReply | deathNotify
  | other (number : Nat)
deriving DecidableEq

structure IpcMsg where
  type : MsgType
  token : UInt32
  code : UInt32
  flag : UInt32
  timestamp : UInt64
  taskID : UInt32
deriving DecidableEq

def tfOpSync : UInt32 := 0
def tfOpAsync : UInt32 := 1

def IpcMsg.async (msg : IpcMsg) : Bool := msg.flag &&& tfOpAsync ≠ 0

/-- What a reply is sent with. -/
structure Out where
  type : MsgType
  handle : UInt32
  code : UInt32
  flag : UInt32
  timestamp : UInt64
  dataSz : Nat
  spObjNum : Nat
deriving DecidableEq

/-- A use of the driver that gives a buffer back, with the message that it sends. -/
structure IpcContent where
  outMsg : Option Out
  buffToFree : Nat
deriving DecidableEq

def errInvalidParam : Int32 := -2

def checkIpcIo (data : IpcIo) : Int32 :=
  if ipcIoAvailable data = false ∨ data.bufferCur = 0 ∨ data.bufferBase = 0 ∨ data.offsetsCur = 0 ∨ data.offsetsBase = 0 ∨
      data.bufferBase < data.offsetsCur then errInvalidParam
  else
    let totalSize : Int := (data.bufferCur-data.bufferBase : Int)+(data.offsetsCur-data.offsetsBase)
    if maxIoSize < (totalSize % 2^32).toNat then errFailed else errNone

def ipcFreeBuffer (buffer : Nat) : IpcContent := ⟨none,buffer⟩

/-- None where the reply fails its check: then nothing is sent and nothing given back. -/
def sendReply (buffer : Nat) (ipcMsg : IpcMsg) (reply : IpcIo) : Option IpcContent :=
  if checkIpcIo reply ≠ errNone then none
  else some ⟨some ⟨.reply,ipcMsg.taskID,ipcMsg.code,ipcMsg.flag,ipcMsg.timestamp,usedBuffer reply,usedOffsets reply⟩,buffer⟩

def sendFailedReply (buffer : Nat) (ipcMsg : IpcMsg) : IpcContent :=
  ⟨some ⟨.failedReply,ipcMsg.taskID,ipcMsg.code,ipcMsg.flag,ipcMsg.timestamp,0,0⟩,buffer⟩

/-- Behind `OnRemoteRequestInner`, in both loops. -/
def answer (buffer : Nat) (ipcMsg : IpcMsg) (reply : IpcIo) : Option IpcContent :=
  if ¬ ipcMsg.async then sendReply buffer ipcMsg reply else some (ipcFreeBuffer buffer)

/-- Behind `ERROR_MSG`. -/
def refuse (buffer : Nat) (ipcMsg : IpcMsg) : IpcContent :=
  if ipcMsg.type = .request ∧ ipcMsg.flag = tfOpSync then sendFailedReply buffer ipcMsg else ipcFreeBuffer buffer

inductive Thread
  /-- `CallbackDispatchLoop`, at its `ioctl`. -/
  | dispatching
  /-- At its `malloc`. -/
  | dispatched (buffer : Nat)
  /-- At its `pthread_create`. -/
  | prepared (buffer : Nat)
  /-- At `ERROR_MSG`. -/
  | failed (buffer : Nat)
  /-- At `ERROR_MALLOC` without a `tArg`, where `ipcMsg` has no value yet. -/
  | undefined
  /-- `CallbackBatchHandler`, at its start. -/
  | created (buffer : Nat)
  /-- In `OnRemoteRequestInner`. -/
  | calling (buffer : Nat)
  | ended
  /-- `IpcJoinThreadLoop`, at its `ioctl`. -/
  | joining
  /-- At `GetCurrentThreadContext`. -/
  | joined (buffer : Nat)
  /-- In `OnRemoteRequestInner`. -/
  | serving (buffer : Nat)
deriving DecidableEq

/-- What the driver, the C library and the callbacks answer. -/
inductive Choice
  | receive (inMsg : IpcMsg)
  | malloc (done : Bool)
  | create (done : Bool)
  /-- Whether there is, or can be made, a context for the thread. -/
  | context (there : Bool)
  /-- What a callback leaves of its reply. -/
  | callback (reply : IpcIo)
  | proceed

structure Outcome where
  thread : Thread
  received : Option IpcMsg
  created : Option Nat
  call : Option IpcContent

def Outcome.stay (thread : Thread) : Outcome := ⟨thread,none,none,none⟩

section Threads
variable (messages : List IpcMsg) (apis : List UInt32)

/-- `GetDeathCallback` or `GetIpcCallback`, or `ERROR_MSG` where no callback is found. -/
def dispatch (buffer : Nat) (ipcMsg : IpcMsg) : Thread :=
  match ipcMsg.type with
  | .deathNotify => .prepared buffer
  | .request => if ipcMsg.token ∈ apis then .prepared buffer else .failed buffer
  | _ => .failed buffer

def advance : Thread → Choice → Option Outcome
  | .dispatching,.receive inMsg => some ⟨.dispatched messages.length,some inMsg,none,none⟩
  | .dispatched buffer,.malloc done =>
    if done then messages[buffer]?.map fun ipcMsg => .stay (dispatch apis buffer ipcMsg) else some (.stay .undefined)
  | .prepared buffer,.create done => if done then some ⟨.dispatching,none,some buffer,none⟩ else some (.stay (.failed buffer))
  | .failed buffer,.proceed => messages[buffer]?.map fun ipcMsg => ⟨.dispatching,none,none,some (refuse buffer ipcMsg)⟩
  | .created buffer,.context there =>
    messages[buffer]?.bind fun ipcMsg =>
      if ipcMsg.type = .request then some (.stay (if there then .calling buffer else .ended)) else none
  | .created buffer,.proceed =>
    messages[buffer]?.bind fun ipcMsg => if ipcMsg.type = .request then none else some (.stay .ended)
  | .calling buffer,.callback reply => messages[buffer]?.map fun ipcMsg => ⟨.ended,none,none,answer buffer ipcMsg reply⟩
  | .joining,.receive inMsg => some ⟨.joined messages.length,some inMsg,none,none⟩
  | .joined buffer,.context there => some (.stay (if there then .serving buffer else .joining))
  | .serving buffer,.callback reply => messages[buffer]?.map fun ipcMsg => ⟨.joining,none,none,answer buffer ipcMsg reply⟩
  | _,_ => none

end Threads

/-- The tokens of `g_ipcCallback.apis`, the threads, and the uses of the driver that gave a buffer back. -/
structure System where
  messages : List IpcMsg
  apis : List UInt32
  threads : List Thread
  calls : List IpcContent

def System.start : System := ⟨[],[],[.dispatching],[]⟩

inductive Event
  | thread (index : Nat) (choice : Choice)
  /-- Callbacks are registered and removed. -/
  | register (apis : List UInt32)
  /-- A thread calls `IpcJoinThread`. -/
  | join

def System.step (system : System) : Event → Option System
  | .thread index choice => do
    let thread ← system.threads[index]?
    let outcome ← advance system.messages system.apis thread choice
    some ⟨system.messages ++ outcome.received.toList,system.apis,
      system.threads.set index outcome.thread ++ (outcome.created.map Thread.created).toList,system.calls ++ outcome.call.toList⟩
  | .register apis => some {system with apis := apis}
  | .join => some {system with threads := system.threads ++ [.joining]}

end CommunicationIpc.Kernel.MessageLoops
