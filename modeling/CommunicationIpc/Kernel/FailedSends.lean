import CommunicationIpc.Kernel.SendBuffer

/-! Requests and replies on one session: `WriteTransaction` appends the package of a message to the session's buffer, and
`SendOrWaitForCompletion` then hands over whatever is pending there. Calls are numbered in the order of their packages; other
threads' calls may come between the two sections of a call. `SendReply` drops the code it gets. -/
namespace CommunicationIpc.Kernel.FailedSends
open CommunicationIpc.Kernel.SendBuffer

def rpcBaseInvokerInvalidDataErr : Int := 504

def socketIdInvalid : Int := 0

/-- What one `OnSendMessage` meets: two allocations and the value of `SendBytes`. -/
structure Attempt where
  acquiring : Allocation
  expanding : Allocation
  sendBytes : Int

def onSendMessage (sessionBuff : BufferObject) (socketId : Int) (attempt : Attempt) : BufferObject × List UInt8 × Int :=
  if socketId ≤ 0 then (sessionBuff,[],-rpcDatabusInvokerInvalidDataErr)
  else sessionBuff.sendData attempt.acquiring attempt.expanding attempt.sendBytes

inductive Completion where
  | noSeqNumber
  | notSent (error : Int)
  | waited (result : Int)
  deriving DecidableEq, Repr

def Completion.code : Completion → Int
  | .noSeqNumber => rpcBaseInvokerInvalidDataErr
  | .notSent _ => rpcBaseInvokerInvalidDataErr
  | .waited result => result

def sendOrWaitForCompletion (sessionBuff : BufferObject) (socketId : Int) (seqNumber : Nat) (attempt : Attempt)
    (waitForReply : Int) : BufferObject × List UInt8 × Completion :=
  if seqNumber = 0 then (sessionBuff,[],.noSeqNumber)
  else
    match onSendMessage sessionBuff socketId attempt with
    | (sent,payload,result) => (sent,payload,if result ≠ 0 then .notSent result else .waited waitForReply)

/-- A package has a header at least. -/
structure Message where
  seqNumber : Nat
  transData : Package
  nonempty : transData.bytes ≠ []

structure Channel where
  buffer : BufferObject
  socketId : Int
  written : Nat
  /-- The messages whose packages are between the cursors. -/
  waiting : List (Nat × Message)
  /-- The calls between `WriteTransaction` and `SendOrWaitForCompletion`. -/
  calling : List (Nat × Message)
  /-- The calls that were told that sending failed. -/
  failed : List Nat
  /-- The calls whose packages were handed over after that. -/
  resent : List Nat

def Channel.new (socketId : Int) : Channel := ⟨BufferObject.new,socketId,0,[],[],[],[]⟩

inductive Event where
  | writeTransaction (message : Message) (acquiring expanding : Allocation)
  | sendOrWaitForCompletion (call : Nat) (attempt : Attempt) (waitForReply : Int)
  | flushCommands (attempt : Attempt)
  | closeDatabusSession

namespace Channel

/-- The buffer after a section that appended nothing; with nothing between the cursors, no package waits. -/
def leave (channel : Channel) (buffer : BufferObject) : Channel :=
  { channel with
    buffer := buffer,
    waiting := if buffer.sendBufferCursorW ≤ buffer.sendBufferCursorR then [] else channel.waiting }

/-- The buffer after a `SendData` that handed over `payload`, which is all that was pending. -/
def sent (channel : Channel) (buffer : BufferObject) (payload : List UInt8) : Channel :=
  { channel.leave buffer with
    resent := channel.resent ++
      if payload = [] then [] else (channel.waiting.map Prod.fst).filter (· ∈ channel.failed) }

def complete (channel : Channel) (call : Nat) (completion : Completion) : Channel :=
  { channel with
    calling := channel.calling.filter (·.1 ≠ call),
    failed := match completion with
      | .notSent _ => channel.failed ++ [call]
      | _ => channel.failed }

def step (channel : Channel) : Event → Channel
  | .writeTransaction message acquiring expanding =>
    match channel.buffer.moveTransData2Buffer message.transData acquiring expanding with
    | (buffer,true) =>
      { channel with buffer := buffer,
                     written := channel.written+1,
                     waiting := channel.waiting ++ [(channel.written,message)],
                     calling := channel.calling ++ [(channel.written,message)] }
    | (buffer,false) => channel.leave buffer
  | .sendOrWaitForCompletion call attempt waitForReply =>
    match channel.calling.lookup call with
    | none => channel
    | some message =>
      match FailedSends.sendOrWaitForCompletion channel.buffer channel.socketId message.seqNumber attempt waitForReply with
      | (buffer,payload,completion) => (channel.sent buffer payload).complete call completion
  | .flushCommands attempt =>
    match onSendMessage channel.buffer channel.socketId attempt with
    | (buffer,payload,_) => channel.sent buffer payload
  | .closeDatabusSession => { channel with socketId := socketIdInvalid }

end Channel

end CommunicationIpc.Kernel.FailedSends
