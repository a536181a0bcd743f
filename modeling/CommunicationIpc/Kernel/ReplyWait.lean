import CommunicationIpc.Kernel.Package
import Mathlib.Logic.Function.Basic

/-! Threads that wait for replies and data threads that process them. A waiting thread
runs `WaitForReply`, a data thread runs `ProcessReply`; each locked region and each store
into a shared `ThreadMessageInfo` is one step, so steps of all threads interleave freely. -/
namespace CommunicationIpc.Kernel.ReplyWait
open CommunicationIpc.Kernel.Package

def replyRetryCount : Nat := 5
def rpcBaseInvokerInvalidReplyErr : Nat := 501

structure ThreadMessageInfo where
  flags : Nat
  bufferSize : Nat
  offsetsSize : Nat
  offsets : Nat
  socketId : UInt32
  buffer : Option (List UInt8)
  ready : Bool
  deriving DecidableEq, Repr

def makeThreadMessageInfo (socketId : Int32) : ThreadMessageInfo :=
  ⟨0,0,0,0,socketId.toUInt32,none,false⟩

structure Reply where
  tr : TransactionData
  body : List UInt8
  isReply : tr.cmd = bcReply
  deriving DecidableEq

/-- `seqNumberToThread_`; the values are shared pointers, here positions of waiting threads. -/
abbrev Threads := Nat → Option Nat

def queryThreadBySeqNumber (threads : Threads) (seqNumber : Nat) : Option Nat := threads seqNumber

def eraseThreadBySeqNumber (threads : Threads) (seqNumber : Nat) : Threads :=
  Function.update threads seqNumber none

def addThreadBySeqNumber (threads : Threads) (seqNumber thread : Nat) : Threads × Bool :=
  match threads seqNumber with
  | none => (Function.update threads seqNumber (some thread),true)
  | some _ => (threads,false)

/-- How `HandleReply` ends: a status code, an error, or the arguments it hands to
`IRemoteObjectTranslateWhenRcv`. -/
inductive Completion where
  | status (err : Nat)
  | invalidReply (err : Nat)
  | contents (buffer : List UInt8) (bufferSize offsets offsetsSize : Nat) (socketId : UInt32)
  deriving DecidableEq, Repr

def handleReply (messageInfo : ThreadMessageInfo) : Completion :=
  if hasFlag messageInfo.flags tfStatusCode then .status (messageInfo.offsetsSize % 2^32)
  else
    match messageInfo.buffer with
    | none => .invalidReply rpcBaseInvokerInvalidReplyErr
    | some buffer =>
      .contents buffer messageInfo.bufferSize messageInfo.offsets messageInfo.offsetsSize messageInfo.socketId

inductive Stage where
  | made
  | waiting
  | woken
  | rejected
  | handled (completion : Completion)
  | returned (completion : Option Completion)
  deriving DecidableEq, Repr

structure Waiter where
  seqNumber : Nat
  socketId : Int32
  messageInfo : ThreadMessageInfo
  stage : Stage
  deriving DecidableEq, Repr

inductive WaitStep where
  | addSendThreadInWait
  | wakeUp
  | timeOut
  | handleReply
  | eraseThread
  deriving DecidableEq, Repr

def Waiter.step (threads : Threads) (thread : Nat) (waiter : Waiter) : WaitStep → Option (Threads × Waiter)
  | .addSendThreadInWait =>
    match waiter.stage with
    | .made =>
      match addThreadBySeqNumber threads waiter.seqNumber thread with
      | (added,true) => some (added,{ waiter with stage := .waiting })
      | (same,false) => some (same,{ waiter with stage := .rejected })
    | _ => none
  | .wakeUp =>
    if waiter.stage = .waiting ∧ waiter.messageInfo.ready = true then
      some (threads,{ waiter with messageInfo := { waiter.messageInfo with ready := false }, stage := .woken })
    else none
  | .timeOut =>
    if waiter.stage = .waiting ∧ waiter.messageInfo.ready = false then
      some (threads,{ waiter with messageInfo := { waiter.messageInfo with ready := false }, stage := .rejected })
    else none
  | .handleReply =>
    match waiter.stage with
    | .woken => some (threads,{ waiter with stage := .handled (ReplyWait.handleReply waiter.messageInfo) })
    | _ => none
  | .eraseThread =>
    match waiter.stage with
    | .rejected =>
      some (eraseThreadBySeqNumber threads waiter.seqNumber,{ waiter with stage := .returned none })
    | .handled completion =>
      some (eraseThreadBySeqNumber threads waiter.seqNumber,
        { waiter with messageInfo := { waiter.messageInfo with buffer := none, ready := false },
                      stage := .returned (some completion) })
    | _ => none

/-- The stores of `ProcessReply`, in order. -/
inductive Field where
  | buffer
  | flags
  | bufferSize
  | offsetsSize
  | offsets
  | socketId
  deriving DecidableEq, Repr

inductive Progress where
  | querying (retryCount : Nat)
  | storing (thread : Nat) (field : Field)
  | waking
  | notifying (thread : Nat)
  | finished
  deriving DecidableEq, Repr

structure Delivery where
  reply : Reply
  listenFd : Int32
  progress : Progress
  deriving DecidableEq

def Field.store (reply : Reply) (listenFd : Int32) (messageInfo : ThreadMessageInfo) : Field → ThreadMessageInfo
  | .buffer => { messageInfo with buffer := some reply.body }
  | .flags => { messageInfo with flags := reply.tr.flags }
  | .bufferSize => { messageInfo with bufferSize := reply.tr.bufferSize }
  | .offsetsSize => { messageInfo with offsetsSize := reply.tr.offsetsSize }
  | .offsets => { messageInfo with offsets := reply.tr.offsets }
  | .socketId => { messageInfo with socketId := listenFd.toUInt32 }

def Field.next (thread : Nat) : Field → Progress
  | .buffer => .storing thread .flags
  | .flags => .storing thread .bufferSize
  | .bufferSize => .storing thread .offsetsSize
  | .offsetsSize => .storing thread .offsets
  | .offsets => .storing thread .socketId
  | .socketId => .waking

/-- One step of a data thread; `copied` is the outcome of `new (std::nothrow)` and `memcpy_s` where
the step makes the copy. The second component is the object written, with its new value. -/
def Delivery.step (threads : Threads) (infoOf : Nat → Option ThreadMessageInfo) (delivery : Delivery)
    (copied : Bool) : Option (Delivery × Option (Nat × ThreadMessageInfo)) :=
  match delivery.progress with
  | .querying retryCount =>
    match queryThreadBySeqNumber threads delivery.reply.tr.seqNumber with
    | some thread => some ({ delivery with progress := .storing thread .buffer },none)
    | none =>
      if retryCount+1 = replyRetryCount then some ({ delivery with progress := .finished },none)
      else some ({ delivery with progress := .querying (retryCount+1) },none)
  | .storing thread field =>
    match infoOf thread with
    | none => none
    | some messageInfo =>
      if field = .buffer ∧ copied = false then
        some ({ delivery with progress := .waking },some (thread,{ messageInfo with buffer := none }))
      else
        some ({ delivery with progress := field.next thread },
          some (thread,field.store delivery.reply delivery.listenFd messageInfo))
  | .waking =>
    match queryThreadBySeqNumber threads delivery.reply.tr.seqNumber with
    | none => some ({ delivery with progress := .finished },none)
    | some thread =>
      match infoOf thread with
      | none => none
      | some messageInfo =>
        if delivery.listenFd.toUInt32 ≠ messageInfo.socketId then
          some ({ delivery with progress := .finished },none)
        else some ({ delivery with progress := .notifying thread },none)
  | .notifying thread =>
    match infoOf thread with
    | none => none
    | some messageInfo =>
      some ({ delivery with progress := .finished },some (thread,{ messageInfo with ready := true }))
  | .finished => none

structure State where
  threads : Threads
  waiters : List Waiter
  deliveries : List Delivery
  serverSockets : List Int32

def State.new : State := ⟨fun _ => none,[],[],[]⟩

inductive Event where
  | waitForReply (seqNumber : Nat) (socketId : Int32)
  | waiter (thread : Nat) (step : WaitStep)
  | startProcessLoop (reply : Reply) (listenFd : Int32)
  | delivery (index : Nat) (copied : Bool)
  | openServerSession (socketId : Int32)
  | closeServerSession (socketId : Int32)
  deriving DecidableEq

def State.infoOf (state : State) (thread : Nat) : Option ThreadMessageInfo :=
  state.waiters[thread]?.map Waiter.messageInfo

def State.putInfo (waiters : List Waiter) : Option (Nat × ThreadMessageInfo) → List Waiter
  | none => waiters
  | some (thread,messageInfo) => waiters.modify thread fun waiter => { waiter with messageInfo := messageInfo }

def State.step (state : State) : Event → Option State
  | .waitForReply seqNumber socketId =>
    some { state with
      waiters := state.waiters ++ [⟨seqNumber,socketId,makeThreadMessageInfo socketId,.made⟩] }
  | .waiter thread step =>
    match state.waiters[thread]? with
    | none => none
    | some waiter =>
      match waiter.step state.threads thread step with
      | none => none
      | some (threads,moved) => some { state with threads := threads, waiters := state.waiters.set thread moved }
  | .startProcessLoop reply listenFd =>
    -- CheckMessageVaildity: a reply is taken from a socket of an open server session
    if listenFd ∈ state.serverSockets then
      some { state with deliveries := state.deliveries ++ [⟨reply,listenFd,.querying 0⟩] }
    else none
  | .delivery index copied =>
    match state.deliveries[index]? with
    | none => none
    | some delivery =>
      match delivery.step state.threads state.infoOf copied with
      | none => none
      | some (moved,written) =>
        some { state with deliveries := state.deliveries.set index moved,
                          waiters := State.putInfo state.waiters written }
  | .openServerSession socketId => some { state with serverSockets := socketId :: state.serverSockets }
  | .closeServerSession socketId =>
    some { state with serverSockets := state.serverSockets.filter (· ≠ socketId) }

end CommunicationIpc.Kernel.ReplyWait
