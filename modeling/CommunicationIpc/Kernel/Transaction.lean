import CommunicationIpc.Kernel.Auth
import CommunicationIpc.Kernel.Marshal
import CommunicationIpc.Kernel.SendBuffer
import CommunicationIpc.Library.Run

/-! One transaction on a data thread, from its translation to its reply. Allocations and
`SendBytes` succeed: `fresh` is what a new block holds. `sessionOf` and `handleOf` are those of the
translation. What the target stub does is an input, since it is called at most once. `sent` and
`replies` are not in the source: the calls of `SendBytes`, and the packages `SendReply` got out. -/
namespace CommunicationIpc.Kernel.Transaction
open CommunicationIpc.Library CommunicationIpc.Kernel.Package CommunicationIpc.Kernel.Translate CommunicationIpc.Kernel.Marshal

def errUnknownReason : Int := 8
def errAllocMemory : Int := 11
def rpcBaseInvokerTranslateErr : Int := 507
def rpcBaseInvokerStubindexErr : Int := 508
def rpcDatabusInvokerInvalidDataErr : Int := 601
def rpcDatabusInvokerInvalidStubIndex : Int := 603

def activeInvoker : Nat := 1

structure DBinderCallerInfo where
  callerPid : Int32
  callerUid : Int32
  clientFd : Int32
  callerTokenID : UInt64
  firstTokenID : UInt64
  callerDeviceID : List UInt8
  deriving DecidableEq

structure Invoker where
  callerInfo : DBinderCallerInfo
  status : Nat
  seqNumber : UInt64
  deriving DecidableEq

structure Connection where
  session : SendBuffer.Session
  reached : ∃ sections, Reaches (does SendBuffer.Session.step) SendBuffer.Session.new sections session

def Connection.step (connection : Connection) (section_ : SendBuffer.Section) : Connection where
  session := connection.session.step section_
  reached := connection.reached.elim fun _ run => ⟨_,.snoc section_ run rfl⟩

/-- What the threads of the process share. The session attached to a socket has that socket id. -/
structure Process where
  skeleton : Auth.Skeleton
  connections : Int32 → Connection
  sent : List (Int32 × List UInt8)

def packageOf (transData : Memory) : SendBuffer.Package where
  bytes := transData.readBytes 0 (transData.read 0 4)
  sizeFits := by
    rw [Memory.readBytes_length]
    exact transData.read_lt 0 4

structure Outcome where
  invoker : Invoker
  process : Process
  replies : List (Int32 × Memory)

/-- What a stub can do to the invoker of its thread: a request of its own takes a new sequence
number, `ResetCallingIdentity` and `SetCallingIdentity` replace the caller. -/
inductive StubAction where
  | sendRequest (seqNumber : UInt64)
  | setCallingIdentity (callerPid callerUid : Int32) (callerTokenID : UInt64) (callerDeviceID : List UInt8)

def Invoker.act (invoker : Invoker) : StubAction → Invoker
  | .sendRequest seqNumber => { invoker with seqNumber := seqNumber }
  | .setCallingIdentity callerPid callerUid callerTokenID callerDeviceID =>
    { invoker with
      callerInfo := { invoker.callerInfo with
        callerPid := callerPid, callerUid := callerUid, callerTokenID := callerTokenID, callerDeviceID := callerDeviceID } }

/-- What the target stub does when it is called, with the process as it is when it returns. -/
structure StubRun where
  actions : List StubAction
  process : Process
  reply : MessageParcel
  error : Int

inductive Allocator where
  | ready
  | missing
  | refused

section Server
variable (sessionOf : Nat → Nat → Nat → Nat → Option Session) (handleOf : Session → Nat) (fresh : Nat → UInt8)

def processRawData (process : Process) (socketId : Int32) (data : MessageParcel) (seqNum : UInt64) : Process × Bool :=
  if data.rawData = [] then (process,true)
  else
    match rawDataPackage data seqNum.toNat with
    | none => (process,false)
    | some package =>
      -- OnSendRawData
      if socketId ≤ 0 then (process,false)
      else ({ process with sent := process.sent ++ [(socketId,package)] },true)

def moveTransData2Buffer (process : Process) (socketId : Int32) (transData : Memory) : Process × Bool :=
  let connection := process.connections socketId
  let moved := connection.step (.moveTransData2Buffer 0 (packageOf transData) (some fresh) (some fresh))
  ({ process with connections := Function.update process.connections socketId moved },
    (connection.session.buffer.moveTransData2Buffer (packageOf transData) (some fresh) (some fresh)).2)

def onSendMessage (process : Process) (socketId : Int32) : Process × Int :=
  if socketId ≤ 0 then (process,-rpcDatabusInvokerInvalidDataErr)
  else
    let connection := process.connections socketId
    let (_,payload,code) := connection.session.buffer.sendData (some fresh) (some fresh) 0
    ({ process with
      connections := Function.update process.connections socketId (connection.step (.sendData 0 (some fresh) (some fresh) 0)),
      sent := if payload = [] then process.sent else process.sent ++ [(socketId,payload)] },code)

/-- For handle 0 and `BC_REPLY`, where the sequence number is the one the invoker holds. -/
def writeTransaction (process : Process) (seqNum : UInt64) (flags : Nat) (socketId : Int32) (data : MessageParcel)
    (status : Int) : Process × Option Memory :=
  match process.skeleton.dbinderSessionObjects.lookup socketId with
  | none => (process,none)
  | some _ =>
    if seqNum = 0 then (process,none)
    else
      match processRawData process socketId data seqNum with
      | (failed,false) => (failed,none)
      | (ahead,true) =>
        match processNormalData sessionOf data 0 seqNum.toNat bcReply 0 flags status with
        | none => (ahead,none)
        | some transData =>
          match moveTransData2Buffer fresh ahead socketId transData with
          | (failed,false) => (failed,none)
          | (written,true) => (written,some transData)

def sendReply (process : Process) (invoker : Invoker) (reply : MessageParcel) (flags : Nat) (result : Int) :
    Process × List (Int32 × Memory) :=
  let socketId := invoker.callerInfo.clientFd
  match writeTransaction sessionOf fresh process invoker.seqNumber flags socketId reply result with
  | (failed,none) => (failed,[])
  | (written,some transData) =>
    -- SendOrWaitForCompletion: nothing answers a reply
    let (process,code) := onSendMessage fresh written socketId
    (process,if code = 0 then [(socketId,transData)] else [])

def sendReplyWithSeqNum (process : Process) (invoker : Invoker) (seqNum : UInt64) (reply : MessageParcel) (flags : Nat)
    (result : Int) : Outcome :=
  if hasFlag flags tfAsync then ⟨invoker,process,[]⟩
  else
    let (replied,replies) := sendReply sessionOf fresh process { invoker with seqNumber := seqNum } reply 0 result
    ⟨invoker,replied,replies⟩

def checkAndSetCallerInfo (process : Process) (invoker : Invoker) (socketId : Int32) (stubIndex : UInt64) :
    Except Int Invoker :=
  match process.skeleton.dbinderSessionObjects.lookup socketId with
  | none => .error rpcDatabusInvokerInvalidDataErr
  | some session =>
    let pid := session.pid.toInt32
    let uid := session.uid.toInt32
    if uid < 0 ∨ deviceidLength < session.deviceId.length then .error rpcDatabusInvokerInvalidDataErr
    else if process.skeleton.queryAppInfoToStubIndex { session with socketId := socketId, stubIndex := stubIndex, stub := none }
        = false then .error rpcDatabusInvokerInvalidStubIndex
    else .ok { invoker with
      callerInfo := ⟨pid,uid,socketId,session.tokenId.toUInt64,session.tokenId.toUInt64,session.deviceId⟩ }

def targetStubSendRequest (process : Process) (invoker : Invoker) (cookie : UInt64) (run : StubRun) :
    Process × Invoker × MessageParcel × Int :=
  match process.skeleton.queryStubByIndex cookie with
  | none => (process,invoker,.empty,rpcBaseInvokerStubindexErr)
  | some _ => (run.process,run.actions.foldl Invoker.act invoker,run.reply,run.error)

def processTransaction (memory : Memory) (listenFd : Int32) (process : Process) (invoker : Invoker) (allocator : Allocator)
    (run : StubRun) : Outcome :=
  let tr := TransactionData.decode memory
  let senderSeqNumber := UInt64.ofNat tr.seqNumber
  let cookie := UInt64.ofNat tr.cookie
  if (Translate.processTransaction handleOf memory).1 = false then
    sendReplyWithSeqNum sessionOf fresh process invoker senderSeqNumber .empty tr.flags rpcBaseInvokerTranslateErr
  else
    let oldStatus := invoker.status
    let oldCallerInfo := invoker.callerInfo
    match checkAndSetCallerInfo process invoker listenFd cookie with
    | .error ret => sendReplyWithSeqNum sessionOf fresh process invoker senderSeqNumber .empty tr.flags ret
    | .ok invoker =>
      match allocator with
      | .missing =>
        let answered := sendReplyWithSeqNum sessionOf fresh process invoker senderSeqNumber .empty tr.flags errAllocMemory
        { answered with invoker := { answered.invoker with callerInfo := oldCallerInfo } }
      | .refused =>
        let answered := sendReplyWithSeqNum sessionOf fresh process invoker senderSeqNumber .empty tr.flags errUnknownReason
        { answered with invoker := { answered.invoker with callerInfo := oldCallerInfo } }
      | .ready =>
        let active := { invoker with status := activeInvoker }
        let (process,invoker,reply,error) := targetStubSendRequest process active cookie run
        let answered := sendReplyWithSeqNum sessionOf fresh process invoker senderSeqNumber reply tr.flags error
        { answered with invoker := { answered.invoker with status := oldStatus, callerInfo := oldCallerInfo } }

end Server

end CommunicationIpc.Kernel.Transaction
